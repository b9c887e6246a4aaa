import PartnerRecords.Proofs.Screen.Twins

/-!
# Replays on twin screens

The same replay on two screens, one of which shows rows that are gone from the other, goes the same
way on both unless it completes a batch of a tab with rows that are gone: then the grid is looked
at, and the two counts cannot both be right. A replay is taken apart into stages for this, each of
which has to do with some of the batches.
-/

namespace PartnerRecords

open Act

variable {σ : Type} {gone : Grids} {d : Draft}

/-- The last pending item of a batch is entered. -/
def Batch.Completes (d : Draft) (before after : Progress) (batch : Batch) : Prop :=
  ¬ batch.IsDone d before ∧ batch.IsDone d after

theorem Batch.completes_congr {before before' after after' : Progress} {batch : Batch}
    (first : batch.entered before = batch.entered before')
    (last : batch.entered after = batch.entered after') :
    batch.Completes d before after ↔ batch.Completes d before' after' := by
  unfold Completes IsDone
  rw [first, last]

theorem Batch.not_completes {before after : Progress} {batch : Batch}
    (same : batch.entered after = batch.entered before) : ¬ batch.Completes d before after := by
  rintro ⟨pending, done⟩
  unfold IsDone at pending done
  rw [same] at done
  exact pending done

def Failure.IsAbout (mine : Batch → Prop) (cause : Failure) : Prop :=
  ∀ tab actual expected, cause = .gridMismatch tab actual expected →
    ∃ batch, mine batch ∧ batch.tab = tab

theorem Failure.isAbout_of_isOfEntry {mine : Batch → Prop} {cause : Failure}
    (ofEntry : cause.isOfEntry = true) : cause.IsAbout mine := by
  rintro tab actual expected rfl
  cases ofEntry

/-- Different results, one of which says that the grid of a tab is not as expected. -/
def Contested (tab : DetailTab) (result result' : Except Failure Unit) : Prop :=
  result ≠ result' ∧ ∃ actual expected,
    result = .error (.gridMismatch tab actual expected) ∨
      result' = .error (.gridMismatch tab actual expected)

/-- Two counts of which one is larger are not both right. -/
theorem contested_counts {tab : DetailTab} {more rows expected : Nat} (positive : 0 < more) :
    Contested tab
      (if rows = expected then .ok () else .error (.gridMismatch tab rows expected))
      (if more + rows = expected then .ok ()
        else .error (.gridMismatch tab (more + rows) expected)) := by
  by_cases right : rows = expected
  · have wrong : more + rows ≠ expected := by omega
    rw [if_pos right, if_neg wrong]
    exact ⟨nofun, _, _, .inr rfl⟩
  · rw [if_neg right]
    refine ⟨?_, _, _, .inl rfl⟩
    split
    · nofun
    · intro same
      simp only [Except.error.injEq, Failure.gridMismatch.injEq] at same
      omega

/-! ## Stages -/

structure Within (mine : Batch → Prop) (state after : Progress × Screen × σ) : Prop where
  others : ∀ batch, ¬ mine batch → batch.entered after.1 = batch.entered state.1
  stays : Server.Stays state.2 after.2

/-- What becomes of the same work on twin screens. Either it completes a batch of a tab with rows
that are gone and the results are contested, or nothing tells the two runs apart. -/
inductive Compared (gone : Grids) (d : Draft) (mine : Batch → Prop) (before : Progress) :
    Except Failure Unit × Progress × Screen × σ →
      Except Failure Unit × Progress × Screen × σ → Prop
  | parted {ran ran' : Except Failure Unit × Progress × Screen × σ} (batch : Batch) :
      mine batch → batch.Completes d before ran.2.1 → gone.rows batch.tab ≠ [] →
      Contested batch.tab ran.1 ran'.1 → Compared gone d mine before ran ran'
  | alike {ran ran' : Except Failure Unit × Progress × Screen × σ} :
      (∀ batch : Batch, batch.Completes d before ran.2.1 → gone.rows batch.tab = []) →
      ran.1 = ran'.1 → Beside Eq (Server.Twins gone) ran.2 ran'.2 →
      Compared gone d mine before ran ran'

structure Stage (gone : Grids) (d : Draft) (mine : Batch → Prop)
    (act : Act (Progress × Screen × σ) Failure Unit) : Prop where
  within : ∀ state, act.Ends state (fun _ => Within mine state)
    fun cause after => Within mine state after ∧ cause.IsAbout mine
  twins : ∀ p world image, Server.Twins gone world image → world.1.visited ≠ none →
    Compared gone d mine p (act (p, world)) (act (p, image))

theorem Within.refl (mine : Batch → Prop) (state : Progress × Screen × σ) :
    Within mine state state :=
  ⟨fun _ _ => rfl, .refl state.2⟩

theorem Within.trans {mine others both : Batch → Prop} {state middle after : Progress × Screen × σ}
    (first : Within mine state middle) (last : Within others middle after)
    (ofFirst : ∀ batch, mine batch → both batch) (ofLast : ∀ batch, others batch → both batch) :
    Within both state after where
  others batch neither := (last.others batch fun member => neither (ofLast batch member)).trans
    (first.others batch fun member => neither (ofFirst batch member))
  stays := first.stays.trans last.stays

/-- Contested results stay different, whatever follows a success, as long as it does not look at the
same grid. -/
theorem Contested.followed {tab : DetailTab} {act next : Act (Progress × Screen × σ) Failure Unit}
    {state state' : Progress × Screen × σ} (contested : Contested tab (act state).1 (act state').1)
    (apart : ∀ state actual expected,
      (next state).1 ≠ .error (.gridMismatch tab actual expected)) :
    Contested tab ((act >>= fun _ => next) state).1 ((act >>= fun _ => next) state').1 := by
  obtain ⟨different, actual, expected, mismatch⟩ := contested
  rw [bind_apply, bind_apply]
  generalize act state = ran at different mismatch ⊢
  generalize act state' = ran' at different mismatch ⊢
  obtain ⟨result, after⟩ := ran
  obtain ⟨result', after'⟩ := ran'
  cases result with
  | ok value =>
      cases result' with
      | ok value' => exact absurd rfl different
      | error cause =>
          obtain failed | failed := mismatch
          · cases failed
          · cases failed
            exact ⟨apart after actual expected, actual, expected, .inr rfl⟩
  | error cause =>
      cases result' with
      | ok value' =>
          obtain failed | failed := mismatch
          · cases failed
            exact ⟨(apart after' actual expected).symm, actual, expected, .inl rfl⟩
          · cases failed
      | error cause' => exact ⟨different, actual, expected, mismatch⟩

namespace Stage

variable {mine others : Batch → Prop} {act next : Act (Progress × Screen × σ) Failure Unit}

theorem kept (stage : Stage gone d mine act) (state : Progress × Screen × σ) :
    Within mine state (act state).2 :=
  ((stage.within state).mono (fun _ _ kept => kept) fun _ _ failed => failed.1).afterwards

theorem isAbout (stage : Stage gone d mine act) {state : Progress × Screen × σ} {cause : Failure}
    (failed : (act state).1 = .error cause) : cause.IsAbout mine :=
  ((stage.within state).of_error failed).2

/-- What a later stage leaves as it was. -/
theorem kept_followed (second : Stage gone d others next) {batch : Batch}
    (foreign : ¬ others batch) (state : Progress × Screen × σ) :
    batch.entered ((act >>= fun _ => next) state).2.1 = batch.entered (act state).2.1 := by
  rw [bind_apply]
  generalize act state = ran
  obtain ⟨_ | _, middle⟩ := ran
  · rfl
  · exact (second.kept middle).others batch foreign

theorem within_followed (first : Stage gone d mine act) (second : Stage gone d others next)
    (state : Progress × Screen × σ) :
    (act >>= fun _ => next).Ends state
      (fun _ => Within (fun batch => mine batch ∨ others batch) state)
      fun cause after => Within (fun batch => mine batch ∨ others batch) state after ∧
        cause.IsAbout fun batch => mine batch ∨ others batch := by
  rw [ends_bind]
  refine (first.within state).mono (fun _ middle kept => ?_) ?_
  · refine (second.within middle).mono (fun _ after later => ?_) ?_
    · exact kept.trans later (fun _ => .inl) fun _ => .inr
    · rintro cause after ⟨later, about⟩
      refine ⟨kept.trans later (fun _ => .inl) fun _ => .inr, ?_⟩
      intro tab actual expected mismatch
      obtain ⟨batch, member, same⟩ := about tab actual expected mismatch
      exact ⟨batch, .inr member, same⟩
  · rintro cause after ⟨kept, about⟩
    refine ⟨kept.trans (.refl others after) (fun _ => .inl) fun _ => .inr, ?_⟩
    intro tab actual expected mismatch
    obtain ⟨batch, member, same⟩ := about tab actual expected mismatch
    exact ⟨batch, .inl member, same⟩

theorem twins_followed (first : Stage gone d mine act) (second : Stage gone d others next)
    (disjoint : ∀ batch, mine batch → ¬ others batch) {p : Progress} {world image : Screen × σ}
    (both : Server.Twins gone world image) (opened : world.1.visited ≠ none) :
    Compared gone d (fun batch => mine batch ∨ others batch) p
      ((act >>= fun _ => next) (p, world)) ((act >>= fun _ => next) (p, image)) := by
  have later : ∀ batch, mine batch → batch.entered ((act >>= fun _ => next) (p, world)).2.1 =
      batch.entered (act (p, world)).2.1 := fun batch member =>
    second.kept_followed (disjoint batch member) (p, world)
  have kept := first.kept (p, world)
  cases first.twins p world image both opened with
  | parted batch member completes missing contested =>
      refine .parted batch (.inl member) ?_ missing (contested.followed ?_)
      · exact (Batch.completes_congr rfl (later batch member)).mpr completes
      · intro state actual expected failed
        obtain ⟨other, owned, same⟩ := second.isAbout failed _ _ _ rfl
        rw [Batch.tab_injective same] at owned
        exact disjoint batch member owned
  | alike harmless same twins =>
      rw [bind_apply] at later
      rw [bind_apply, bind_apply]
      generalize act (p, world) = ran at later kept harmless same twins ⊢
      generalize act (p, image) = ran' at same twins ⊢
      obtain ⟨result, p₁, world₁⟩ := ran
      obtain ⟨result', _, image₁⟩ := ran'
      obtain ⟨rfl, twins⟩ := twins
      cases same
      cases result with
      | error cause => exact .alike harmless rfl ⟨rfl, twins⟩
      | ok value =>
          have onward : world₁.1.visited ≠ none := kept.stays.visited ▸ opened
          have before : ∀ batch, ¬ mine batch → ∀ after,
              batch.Completes d p after ↔ batch.Completes d p₁ after := fun batch foreign _ =>
            Batch.completes_congr (kept.others batch foreign).symm rfl
          cases second.twins p₁ world₁ image₁ twins onward with
          | parted batch member completes missing contested =>
              have foreign : ¬ mine batch := fun owned => disjoint batch owned member
              exact .parted batch (.inr member) ((before batch foreign _).mpr completes) missing
                contested
          | alike harmless₂ same₂ twins₂ =>
              refine .alike (fun batch completes => ?_) same₂ twins₂
              by_cases owned : mine batch
              · have early := (Batch.completes_congr rfl (later batch owned)).mp completes
                exact harmless batch early
              · exact harmless₂ batch ((before batch owned _).mp completes)

/-- Stages that have to do with different batches follow each other. -/
theorem bind (first : Stage gone d mine act) (second : Stage gone d others next)
    (disjoint : ∀ batch, mine batch → ¬ others batch) :
    Stage gone d (fun batch => mine batch ∨ others batch) (act >>= fun _ => next) where
  within := first.within_followed second
  twins := fun _ _ _ => first.twins_followed second disjoint

end Stage

/-! ## The stages of a replay -/

section Stages

variable (server : Server σ)

theorem Item.enter_stays (item : Item) {start world : Screen × σ}
    (kept : Server.Stays start world) :
    (item.enter server.desk).Ends world (fun _ => Server.Stays start)
      fun cause after => cause.isOfEntry = true ∧ Server.Stays start after := by
  have keeps : (item.enter server.desk).Keeps (fun cause => cause.isOfEntry = true)
      (Server.Stays start) :=
    enter_keeps (server.desk_keeps_stays start) fun c member window record visits => by
      have ofForm := item.calls_ofForm c member
      rw [visits] at ofForm
      cases ofForm
  exact keeps world kept

namespace Batch

variable (batch : Batch) {p : Progress} {world image : Screen × σ}

/-- A batch looks at no grid but its own. -/
theorem expectRows_within {state : Progress × Screen × σ} {q : Progress} {middle : Screen × σ}
    (kept : Within (· = batch) state (q, middle)) :
    (Entry.expectRows server.desk batch.tab (batch.rows q)).Ends middle
      (fun _ after => Within (· = batch) state (q, after))
      fun cause after => Within (· = batch) state (q, after) ∧ cause.IsAbout (· = batch) := by
  have counts : (server.desk.gesture .countRows).Keeps (fun cause => cause.isOfEntry = true)
      (Server.Stays state.2) := (server.desk_keeps_stays state.2).gesture nofun
  unfold Entry.expectRows
  rw [ends_bind]
  refine (counts middle kept.stays).mono (fun actual after stays => ?_) ?_
  · split
    · exact ⟨kept.others, stays⟩
    · refine ⟨⟨kept.others, stays⟩, ?_⟩
      rintro tab actual expected mismatch
      cases mismatch
      exact ⟨batch, rfl, rfl⟩
  · rintro cause after ⟨ofEntry, stays⟩
    exact ⟨⟨kept.others, stays⟩, Failure.isAbout_of_isOfEntry ofEntry⟩

theorem run_within (state : Progress × Screen × σ) :
    (batch.run server.desk d).Ends state (fun _ => Within (· = batch) state)
      fun cause after => Within (· = batch) state after ∧ cause.IsAbout (· = batch) := by
  let holds : Progress → Screen × σ → Prop := fun q after => Within (· = batch) state (q, after)
  refine run_ends holds holds holds
    (fun cause q after => holds q after ∧ cause.IsAbout (· = batch)) ?_ ?_
    (fun _ => .refl _ state) (.refl _ state)
  · intro item q middle tab _ kept
    have same : Within (· = batch) state (q, middle) := kept.elim id id
    refine (item.enter_stays server same.stays).mono (fun _ after stays => ⟨?_, stays⟩) ?_
    · intro other foreign
      have counted := other.entered_count q item
      rw [if_neg fun shared => foreign (tab_injective (shared.symm.trans tab))] at counted
      exact counted.trans (same.others other foreign)
    · rintro cause after ⟨ofEntry, stays⟩
      exact ⟨⟨same.others, stays⟩, Failure.isAbout_of_isOfEntry ofEntry⟩
  · exact fun q middle _ kept => batch.expectRows_within server kept

/-- The items of a batch are entered on the screen of the record that is open. -/
theorem enterEach_entered (pending : ¬ batch.IsDone d p) (world : Screen × σ) :
    (batch.enterEach server.desk ((batch.queue d).drop (batch.entered p))).Ends (p, world)
      (fun _ state => batch.IsDone d state.1 ∧ state.2.1.visited = world.1.visited ∧
        state.2.1.tab = some batch.tab)
      fun _ state => ¬ batch.IsDone d state.1 := by
  refine enterEach_ends (fun _ (middle : Screen × σ) => middle.1.visited = world.1.visited)
    (fun _ middle => middle.1.visited = world.1.visited ∧ middle.1.tab = some batch.tab)
    (fun _ q _ => ¬ batch.IsDone d q) ?_ pending rfl
  rintro item q ⟨s, rest⟩ tab next kept
  have same : s.visited = world.1.visited := kept.elim id And.left
  refine item.enter_entered.mono ?_ ?_
  · intro _ after entered
    exact ⟨entered.visited.trans same, entered.tab.trans (congrArg some tab)⟩
  · exact fun _ _ _ done => done.tab_ne next tab

/-- The count is the only call that tells twins apart, and it does so if rows are gone. -/
theorem expectRows_twins {q : Progress} {middle middle' : Screen × σ}
    (twins : Server.Twins gone middle middle') (opened : middle.1.visited ≠ none)
    (tab : middle.1.tab = some batch.tab) :
    Server.Twins gone (Entry.expectRows server.desk batch.tab (batch.rows q) middle).2
        (Entry.expectRows server.desk batch.tab (batch.rows q) middle').2 ∧
      (gone.rows batch.tab = [] →
        (Entry.expectRows server.desk batch.tab (batch.rows q) middle).1 =
          (Entry.expectRows server.desk batch.tab (batch.rows q) middle').1) ∧
      (gone.rows batch.tab ≠ [] → Contested batch.tab
        (Entry.expectRows server.desk batch.tab (batch.rows q) middle).1
        (Entry.expectRows server.desk batch.tab (batch.rows q) middle').1) := by
  obtain ⟨s, calls, rest⟩ := twins
  have count := Entry.expectRows_eq server s rest opened tab (batch.rows q)
  have count' := Entry.expectRows_eq server (s.refilled gone calls) rest opened tab (batch.rows q)
  have longer : ((s.refilled gone calls).grids.rows batch.tab).length =
      (gone.rows batch.tab).length + (s.grids.rows batch.tab).length := by
    change ((gone.append s.grids).rows batch.tab).length = _
    rw [Grids.rows_append, List.length_append]
  rw [count, count', longer]
  refine ⟨.twins (s.logged .countRows) (calls ++ [.countRows]) rest, fun nothing => ?_,
    fun missing => contested_counts (List.length_pos_iff.mpr missing)⟩
  rw [nothing, List.length_nil, Nat.zero_add]

theorem run_twins (both : Server.Twins gone world image) (opened : world.1.visited ≠ none) :
    Compared gone d (· = batch) p (batch.run server.desk d (p, world))
      (batch.run server.desk d (p, image)) := by
  by_cases finished : batch.IsDone d p
  · rw [run_idle finished, run_idle finished]
    exact .alike (fun other completes => absurd completes (not_completes rfl)) rfl ⟨rfl, both⟩
  · have kept := ((batch.run_within (d := d) server (p, world)).mono (fun _ _ kept => kept)
      fun _ _ failed => failed.1).afterwards
    have foreign : ∀ other, other.Completes d p (batch.run server.desk d (p, world)).2.1 →
        other = batch := by
      intro other completes
      by_contra others
      exact not_completes (kept.others other others) completes
    have mirrored := batch.enterEach_mirrors (server.desk_mirrors_twins gone) (fun _ => id)
      ((batch.queue d).drop (batch.entered p)) (p, world) (p, image) ⟨rfl, both⟩
    have ends := batch.enterEach_entered server finished world
    rw [run_pending finished, bind_apply] at foreign
    rw [run_pending finished, run_pending finished, bind_apply, bind_apply]
    unfold Ends at ends
    generalize batch.enterEach server.desk _ (p, world) = ran at mirrored ends foreign ⊢
    generalize batch.enterEach server.desk _ (p, image) = ran' at mirrored ⊢
    obtain ⟨result, q, middle⟩ := ran
    obtain ⟨result', _, middle'⟩ := ran'
    obtain ⟨same, rfl, twins⟩ := mirrored
    cases same
    cases result with
    | error cause =>
        refine .alike (fun other completes => ?_) rfl ⟨rfl, twins⟩
        rw [foreign other completes] at completes
        exact absurd completes.2 ends
    | ok value =>
        obtain ⟨done, stays, tab⟩ := ends
        obtain ⟨counted, equal, unequal⟩ :=
          batch.expectRows_twins (q := q) server twins (stays ▸ opened) tab
        by_cases missing : gone.rows batch.tab = []
        · refine .alike (fun other completes => ?_) (equal missing) ⟨rfl, counted⟩
          rw [foreign other completes, missing]
        · exact .parted batch rfl ⟨finished, done⟩ missing (unequal missing)

theorem run_stage : Stage gone d (· = batch) (batch.run server.desk d) where
  within := batch.run_within server
  twins := fun _ _ _ => batch.run_twins server

end Batch

/-- Bank accounts make no batch, and their grid is not looked at. -/
theorem Entry.pendingBank_stage :
    Stage gone d (fun _ => False) (Entry.pendingBank server.desk d) := by
  have within : ∀ state : Progress × Screen × σ, (Entry.pendingBank server.desk d).Ends state
      (fun _ => Within (fun _ => False) state)
      fun cause after => Within (fun _ => False) state after ∧ cause.IsAbout fun _ => False := by
    intro state
    let holds : Progress → Screen × σ → Prop := fun q after =>
      Within (fun _ => False) state (q, after)
    refine pendingBank_ends holds
      (fun cause q after => holds q after ∧ cause.IsAbout fun _ => False) ?_
      fun _ => .refl _ state
    intro name _
    refine ((Item.bank name).enter_stays server (.refl state.2)).mono ?_ ?_
    · intro _ after stays
      refine ⟨fun batch _ => ?_, stays⟩
      cases batch <;> rfl
    · rintro cause after ⟨ofEntry, stays⟩
      exact ⟨⟨fun _ _ => rfl, stays⟩, Failure.isAbout_of_isOfEntry ofEntry⟩
  refine ⟨within, fun p world image both _ => ?_⟩
  have kept := ((within (p, world)).mono (fun _ _ kept => kept) fun _ _ failed =>
    failed.1).afterwards
  obtain ⟨same, after⟩ := Entry.pendingBank_mirrors (server.desk_mirrors_twins gone)
    (fun _ => id) d (p, world) (p, image) ⟨rfl, both⟩
  refine .alike (fun batch completes => absurd completes ?_) same after
  exact Batch.not_completes (kept.others batch id)

/-- A replay is its two batches and the bank account. -/
theorem Entry.replay_stage :
    Stage gone d (fun batch => batch = .locations ∨ batch = .contacts ∨ False)
      (Entry.replay server.desk d) := by
  rw [replay_eq]
  refine (Batch.locations.run_stage server).bind
    ((Batch.contacts.run_stage server).bind (pendingBank_stage server) ?_) ?_
  · exact fun _ _ never => never
  · rintro batch rfl (other | never)
    · cases other
    · exact never

end Stages

end PartnerRecords
