import PartnerRecords.Act

/-!
# How acts end

A statement about a run of an act speaks of the value and the world of a success, or of the
cause and the world of a failure. One rule for each combinator takes such a statement apart, so
that proofs about a program follow its text.
-/

namespace PartnerRecords.Act

variable {ω σ ε δ α β γ : Type}

theorem andThen_done (act : Act ω ε α) : act.andThen done = act := by
  funext world
  unfold andThen
  rcases act world with ⟨_ | _, _⟩ <;> rfl

theorem andThen_assoc (act : Act ω ε α) (next : α → Act ω ε β) (last : β → Act ω ε γ) :
    (act.andThen next).andThen last = act.andThen fun value => (next value).andThen last := by
  funext world
  unfold andThen
  rcases act world with ⟨_ | _, _⟩ <;> rfl

instance : LawfulMonad (Act ω ε) :=
  LawfulMonad.mk' (Act ω ε) andThen_done (fun _ _ => rfl) andThen_assoc

theorem bind_pure_apply (act : Act ω ε α) (f : α → β) (world : ω) :
    (act >>= fun value => pure (f value)) world = ((act world).1.map f, (act world).2) := by
  rw [bind_apply]
  rcases act world with ⟨_ | _, _⟩ <;> rfl

theorem ofExcept_apply (outcome : Except ε α) (world : ω) :
    ofExcept outcome world = (outcome, world) := by
  cases outcome <;> rfl

/-- Run in a world, an act ends with `good` if it succeeds and with `bad` if it fails. -/
def Ends (act : Act ω ε α) (world : ω) (good : α → ω → Prop) (bad : ε → ω → Prop) : Prop :=
  match act world with
  | (.ok value, world) => good value world
  | (.error cause, world) => bad cause world

section Rules

variable {act : Act ω ε α} {next : α → Act ω ε β} {world : ω}
variable {good good' : α → ω → Prop} {bad bad' : ε → ω → Prop}

theorem ends_of_eq {result : Except ε α} {after : ω} (run : act world = (result, after)) :
    act.Ends world good bad ↔
      (∀ value, result = .ok value → good value after) ∧
        ∀ cause, result = .error cause → bad cause after := by
  unfold Ends
  rw [run]
  cases result <;> simp

theorem ends_congr {act' : Act ω ε α} {world' : ω} (same : act world = act' world') :
    act.Ends world good bad ↔ act'.Ends world' good bad := by
  unfold Ends
  rw [same]

/-- A statement about the result of a run is one about both of its ends. -/
theorem ends_iff (holds : Except ε α → ω → Prop) :
    act.Ends world (fun value => holds (.ok value)) (fun cause => holds (.error cause)) ↔
      holds (act world).1 (act world).2 := by
  unfold Ends
  rcases act world with ⟨_ | _, _⟩ <;> exact Iff.rfl

theorem ends_self (act : Act ω ε α) (world : ω) :
    act.Ends world (fun value after => act world = (.ok value, after))
      fun cause after => act world = (.error cause, after) :=
  (ends_iff fun result after => act world = (result, after)).mpr rfl

theorem Ends.mono (ends : act.Ends world good bad)
    (onGood : ∀ value after, good value after → good' value after)
    (onBad : ∀ cause after, bad cause after → bad' cause after) :
    act.Ends world good' bad' := by
  unfold Ends at ends ⊢
  split
  · next run => rw [run] at ends; exact onGood _ _ ends
  · next run => rw [run] at ends; exact onBad _ _ ends

/-- The world after an act, if both ends say the same of it. -/
theorem Ends.afterwards {holds : ω → Prop}
    (ends : act.Ends world (fun _ => holds) fun _ => holds) : holds (act world).2 := by
  unfold Ends at ends
  split at ends
  · next run => rw [run]; exact ends
  · next run => rw [run]; exact ends

/-- The cause of a failure. -/
theorem Ends.of_error (ends : act.Ends world good bad) {cause : ε}
    (failed : (act world).1 = .error cause) : bad cause (act world).2 := by
  unfold Ends at ends
  split at ends
  · next run => rw [run] at failed; cases failed
  · next run => rw [run] at failed ⊢; cases failed; exact ends

/-- The value of a success. -/
theorem Ends.of_ok (ends : act.Ends world good bad) {value : α}
    (answered : (act world).1 = .ok value) : good value (act world).2 := by
  unfold Ends at ends
  split at ends
  · next run => rw [run] at answered ⊢; cases answered; exact ends
  · next run => rw [run] at answered; cases answered

theorem ends_of_forall (onGood : ∀ value after, good value after)
    (onBad : ∀ cause after, bad cause after) : act.Ends world good bad := by
  unfold Ends
  split
  · exact onGood _ _
  · exact onBad _ _

theorem Ends.and (first : act.Ends world good bad) (second : act.Ends world good' bad') :
    act.Ends world (fun value after => good value after ∧ good' value after)
      (fun cause after => bad cause after ∧ bad' cause after) := by
  unfold Ends at first second ⊢
  split
  · next run => rw [run] at first second; exact ⟨first, second⟩
  · next run => rw [run] at first second; exact ⟨first, second⟩

theorem ends_bind {good : β → ω → Prop} :
    (act >>= next).Ends world good bad ↔
      act.Ends world (fun value after => (next value).Ends after good bad) bad := by
  unfold Ends
  rw [bind_apply]
  rcases act world with ⟨_ | _, _⟩ <;> exact Iff.rfl

@[simp] theorem ends_pure {value : α} :
    (pure value : Act ω ε α).Ends world good bad ↔ good value world := Iff.rfl

@[simp] theorem ends_done {value : α} :
    (done value : Act ω ε α).Ends world good bad ↔ good value world := Iff.rfl

@[simp] theorem ends_fail {cause : ε} :
    (fail cause : Act ω ε α).Ends world good bad ↔ bad cause world := Iff.rfl

@[simp] theorem ends_get {good : ω → ω → Prop} :
    (get : Act ω ε ω).Ends world good bad ↔ good world world := Iff.rfl

@[simp] theorem ends_update {f : ω → ω} {good : Unit → ω → Prop} :
    (update f : Act ω ε Unit).Ends world good bad ↔ good () (f world) := Iff.rfl

@[simp] theorem ends_updateFirst {f : σ → σ} {pair : σ × ω} {good : Unit → σ × ω → Prop}
    {bad : ε → σ × ω → Prop} :
    (updateFirst f : Act (σ × ω) ε Unit).Ends pair good bad ↔ good () (f pair.1, pair.2) :=
  Iff.rfl

theorem ends_inside {pair : σ × ω} {good : α → σ × ω → Prop} {bad : ε → σ × ω → Prop} :
    act.inside.Ends pair good bad ↔
      act.Ends pair.2 (fun value after => good value (pair.1, after))
        (fun cause after => bad cause (pair.1, after)) := by
  unfold Ends
  obtain ⟨first, inner⟩ := pair
  rw [inside_apply]
  rcases act inner with ⟨_ | _, _⟩ <;> exact Iff.rfl

theorem ends_orFail {act : Act ω δ α} {name : δ → ε} :
    (act.orFail name).Ends world good bad ↔
      act.Ends world good (fun reason after => bad (name reason) after) := by
  unfold Ends orFail
  rcases act world with ⟨_ | _, _⟩ <;> exact Iff.rfl

/-- An invariant of the items still to come and the world, kept by each item, leads to the
end of the list or to the first failure. -/
theorem Ends.each {act : α → Act ω ε Unit} {holds : List α → ω → Prop} {bad : ε → ω → Prop}
    (step : ∀ item rest world, holds (item :: rest) world →
      (act item).Ends world (fun _ => holds rest) bad)
    (items : List α) (world : ω) (start : holds items world) :
    (Act.each act items).Ends world (fun _ => holds []) bad := by
  induction items generalizing world with
  | nil => exact start
  | cons item rest ih =>
      change (act item >>= fun _ => Act.each act rest).Ends world _ _
      rw [ends_bind]
      exact (step item rest world start).mono (fun _ after kept => ih after kept)
        fun _ _ failed => failed

end Rules

/-! ## Invariants -/

/-- What holds of the world before an act holds after it, whether the act fails or not, and it
fails of nothing but the given causes. -/
def Keeps (act : Act ω ε α) (causes : ε → Prop) (holds : ω → Prop) : Prop :=
  ∀ world, holds world → act.Ends world (fun _ => holds) fun cause after =>
    causes cause ∧ holds after

section Keeping

variable {act : Act ω ε α} {next : α → Act ω ε β} {causes : ε → Prop} {holds : ω → Prop}

theorem Keeps.weaken {others : ε → Prop} (keeps : act.Keeps causes holds)
    (weaker : ∀ cause, causes cause → others cause) : act.Keeps others holds :=
  fun world before => (keeps world before).mono (fun _ _ kept => kept)
    fun cause _ failed => ⟨weaker cause failed.1, failed.2⟩

theorem Keeps.bind (first : act.Keeps causes holds)
    (second : ∀ value, (next value).Keeps causes holds) : (act >>= next).Keeps causes holds := by
  intro world before
  rw [ends_bind]
  exact (first world before).mono (fun value after kept => second value after kept)
    fun _ _ failed => failed

theorem Keeps.done {value : α} : (done value : Act ω ε α).Keeps causes holds :=
  fun _ before => before

theorem Keeps.fail {cause : ε} (may : causes cause) :
    (fail cause : Act ω ε α).Keeps causes holds :=
  fun _ before => ⟨may, before⟩

end Keeping

end PartnerRecords.Act
