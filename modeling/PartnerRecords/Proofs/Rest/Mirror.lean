import PartnerRecords.Partner.Builder
import PartnerRecords.Proofs.Rest.Dialogue

/-!
# Mirrored runs

Two runs mirror each other if they begin in related worlds, end in the same way, and leave related
worlds. Desks that mirror each other call by call and exchange by exchange do so over everything
that is done at them. The relation says what of the worlds may differ.
-/

namespace PartnerRecords

variable {ω ω' σ σ' ε δ α β : Type}

namespace Act

/-- From related worlds, two acts reach the same result and related worlds. -/
def Mirrors (act : Act ω ε α) (other : Act ω' ε α) (related : ω → ω' → Prop) : Prop :=
  ∀ world image, related world image →
    (act world).1 = (other image).1 ∧ related (act world).2 (other image).2

def Beside (first : σ → σ' → Prop) (related : ω → ω' → Prop) (pair : σ × ω) (image : σ' × ω') :
    Prop :=
  first pair.1 image.1 ∧ related pair.2 image.2

section Rules

variable {act : Act ω ε α} {other : Act ω' ε α} {related : ω → ω' → Prop}

theorem mirrors_done (value : α) : (done value : Act ω ε α).Mirrors (done value) related :=
  fun _ _ both => ⟨rfl, both⟩

theorem mirrors_fail (cause : ε) : (fail cause : Act ω ε α).Mirrors (fail cause) related :=
  fun _ _ both => ⟨rfl, both⟩

theorem mirrors_ofExcept (outcome : Except ε α) :
    (ofExcept outcome : Act ω ε α).Mirrors (ofExcept outcome) related := by
  cases outcome with
  | ok value => exact mirrors_done value
  | error cause => exact mirrors_fail cause

theorem Mirrors.bind {next : α → Act ω ε β} {next' : α → Act ω' ε β}
    (first : act.Mirrors other related)
    (second : ∀ value, (next value).Mirrors (next' value) related) :
    (act >>= next).Mirrors (other >>= next') related := by
  intro world image both
  obtain ⟨same, after⟩ := first world image both
  rw [bind_apply, bind_apply]
  generalize act world = ran at same after ⊢
  generalize other image = ran' at same after ⊢
  obtain ⟨result, world⟩ := ran
  obtain ⟨result', image⟩ := ran'
  cases same
  cases result with
  | ok value => exact second value world image after
  | error cause => exact ⟨rfl, after⟩

/-- Acts that begin by looking at their worlds. -/
theorem mirrors_get {next : ω → Act ω ε β} {next' : ω' → Act ω' ε β}
    (second : ∀ world image, related world image → (next world).Mirrors (next' image) related) :
    (get >>= next).Mirrors (get >>= next') related :=
  fun world image both => second world image both world image both

theorem Mirrors.orFail {act : Act ω δ α} {other : Act ω' δ α} (mirrors : act.Mirrors other related)
    (name : δ → ε) : (act.orFail name).Mirrors (other.orFail name) related := by
  intro world image both
  obtain ⟨same, after⟩ := mirrors world image both
  unfold Act.orFail
  generalize act world = ran at same after ⊢
  generalize other image = ran' at same after ⊢
  obtain ⟨result, world⟩ := ran
  obtain ⟨result', image⟩ := ran'
  cases same
  cases result with
  | ok value => exact ⟨rfl, after⟩
  | error cause => exact ⟨rfl, after⟩

theorem Mirrors.inside (mirrors : act.Mirrors other related) (first : σ → σ' → Prop) :
    act.inside.Mirrors other.inside (Beside first related) := by
  rintro ⟨a, world⟩ ⟨b, image⟩ ⟨firsts, both⟩
  obtain ⟨same, after⟩ := mirrors world image both
  exact ⟨same, firsts, after⟩

theorem Mirrors.attempt {act : Act ω δ α} {other : Act ω' δ α}
    (mirrors : act.Mirrors other related) :
    (act.attempt : Act ω ε (Except δ α)).Mirrors other.attempt related := by
  intro world image both
  obtain ⟨same, after⟩ := mirrors world image both
  exact ⟨congrArg Except.ok same, after⟩

theorem mirrors_updateFirst {first : σ → σ' → Prop} {f : σ → σ} {g : σ' → σ'}
    (keeps : ∀ a b, first a b → first (f a) (g b)) :
    (updateFirst f : Act (σ × ω) ε Unit).Mirrors (updateFirst g) (Beside first related) :=
  fun pair image both => ⟨rfl, keeps pair.1 image.1 both.1, both.2⟩

theorem mirrors_each {act : α → Act ω ε Unit} {other : α → Act ω' ε Unit}
    (each : ∀ item, (act item).Mirrors (other item) related) (items : List α) :
    (Act.each act items).Mirrors (Act.each other items) related := by
  induction items with
  | nil => exact mirrors_done ()
  | cons item rest ih => exact (each item).bind fun _ => ih

theorem mirrors_foldlM {act : β → α → Act ω ε β} {other : β → α → Act ω' ε β}
    (step : ∀ so item, (act so item).Mirrors (other so item) related) (items : List α) (so : β) :
    (items.foldlM act so).Mirrors (items.foldlM other so) related := by
  induction items generalizing so with
  | nil => exact mirrors_done so
  | cons item rest ih =>
      rw [List.foldlM_cons, List.foldlM_cons]
      exact (step so item).bind fun next => ih next

/-- What is known of the end of a run is known of the end of its mirror image. -/
theorem Mirrors.ends {world : ω} {image : ω'} {good : α → ω → Prop} {bad : ε → ω → Prop}
    (mirrors : act.Mirrors other related) (both : related world image)
    (ends : act.Ends world good bad) :
    other.Ends image (fun value after => ∃ before, related before after ∧ good value before)
      fun cause after => ∃ before, related before after ∧ bad cause before := by
  obtain ⟨same, related⟩ := mirrors world image both
  unfold Ends at ends ⊢
  generalize act world = ran at same related ends
  generalize other image = ran' at same related ⊢
  obtain ⟨result, before⟩ := ran
  obtain ⟨result', after⟩ := ran'
  cases same
  cases result with
  | ok value => exact ⟨before, related, ends⟩
  | error cause => exact ⟨before, related, ends⟩

end Rules

end Act

open Act

/-! ## Desks -/

/-- Two desks at which the same happens as long as their worlds are related and only the allowed
calls are made. -/
structure Desk.Mirrors (desk : Desk ω) (other : Desk ω') (allowed : Call → Prop)
    (related : ω → ω' → Prop) : Prop where
  exchange : ∀ request world image, related world image →
    (desk.exchange request world).1 = (other.exchange request image).1 ∧
      related (desk.exchange request world).2 (other.exchange request image).2
  call : ∀ c, allowed c → Act.Mirrors (desk.call c) (other.call c) related
  note : ∀ event world image, related world image →
    related (desk.note event world) (other.note event image)
  readOrder : ∀ world image, related world image → desk.readOrder world = other.readOrder image

/-- A record of the deeds makes no difference to what is done. -/
theorem Desk.recorded_mirrors (desk : Desk ω) :
    desk.recorded.Mirrors desk (fun _ => True) fun world image => world.2 = image where
  exchange := by
    rintro request world _ rfl
    exact ⟨rfl, rfl⟩
  call := by
    rintro c - world _ rfl
    exact ⟨rfl, rfl⟩
  note := by
    rintro event world _ rfl
    rfl
  readOrder := by
    rintro world _ rfl
    rfl

/-- What is known of the world after a recorded run is known of it after the same run without a
record. -/
theorem Act.Mirrors.unrecorded {act : Act (List Deed × ω) ε α} {plain : Act ω ε α} {log : List Deed}
    {world : ω} {good : α → ω → Prop} {bad : ε → ω → Prop}
    (mirrors : act.Mirrors plain fun world image => world.2 = image)
    (ends : act.Ends (log, world) (fun value after => good value after.2)
      fun cause after => bad cause after.2) : plain.Ends world good bad := by
  have begins : (log, world).2 = world := rfl
  refine (mirrors.ends begins ends).mono ?_ ?_
  · rintro value _ ⟨after, rfl, holds⟩
    exact holds
  · rintro cause _ ⟨after, rfl, holds⟩
    exact holds

namespace Desk.Mirrors

variable {desk : Desk ω} {other : Desk ω'} {allowed : Call → Prop} {related : ω → ω' → Prop}

theorem gesture (mirrors : desk.Mirrors other allowed related) {c : Call} (may : allowed c) :
    (desk.gesture c).Mirrors (other.gesture c) related :=
  (mirrors.call c may).orFail _

theorem report (mirrors : desk.Mirrors other allowed related) (event : Event) :
    (desk.report event).Mirrors (other.report event) related :=
  fun world image both => ⟨rfl, mirrors.note event world image both⟩

theorem announce (mirrors : desk.Mirrors other allowed related) (request : Request) :
    (desk.announce request).Mirrors (other.announce request) related := by
  refine (mirrors.report _).bind fun _ => ?_
  dsimp only
  split
  · exact mirrors_done ()
  · exact mirrors_fail _

theorem deliver (mirrors : desk.Mirrors other allowed related) (request : Request) :
    (desk.deliver request).Mirrors (other.deliver request) related := by
  intro world image both
  obtain ⟨reply, after⟩ := mirrors.exchange request world image both
  exact ⟨congrArg (Reply.read request.url.withoutCredentials) reply, after⟩

theorem send (mirrors : desk.Mirrors other allowed related) (request : Request) :
    (desk.send request).Mirrors (other.send request) related :=
  (mirrors.announce request).bind fun _ => mirrors.deliver request

section Server

variable (mirrors : desk.Mirrors other allowed related) (window : PartnerWindow)
  (record : RecordId)
include mirrors

theorem sendTo (client : WindowClient) (segments : List String) (adjust : Url → Url)
    (changes : Option (List Change)) :
    (client.sendTo desk segments adjust changes).Mirrors
      (client.sendTo other segments adjust changes) related :=
  (mirrors_ofExcept _).bind fun _ => mirrors.send _

theorem createRecord (client : WindowClient) :
    (client.createRecord desk).Mirrors (client.createRecord other) related :=
  (mirrors.sendTo client _ _ _).bind fun _ => mirrors_ofExcept _

theorem takeStep (outcomes : Outcomes) (step : ReadStep) :
    (window.takeStep desk record outcomes step).Mirrors (window.takeStep other record outcomes step)
      related := by
  cases step with
  | begins read =>
      exact (mirrors_ofExcept _).bind fun url =>
        (mirrors.announce { url }).bind fun _ => mirrors_done outcomes
  | arrives read =>
      exact (mirrors_ofExcept _).bind fun request =>
        (mirrors.deliver request).attempt.bind fun _ => mirrors_ofExcept _
  | returns read => exact mirrors_ofExcept _

theorem snapshot :
    (window.snapshot desk record).Mirrors (window.snapshot other record) related := by
  refine mirrors_get fun world image both => ?_
  rw [mirrors.readOrder world image both]
  exact (mirrors_foldlM (mirrors.takeStep window record) _ _).bind fun _ => mirrors_ofExcept _

theorem sendTerms (d : Draft) :
    (Builder.sendTerms window desk d record).Mirrors (Builder.sendTerms window other d record)
      related := by
  refine (mirrors.snapshot window record).bind fun snapshot => ?_
  cases termChanges d snapshot with
  | error missing => exact mirrors_fail _
  | ok changes =>
      cases changes with
      | nil => exact mirrors_done ()
      | cons first rest => exact (mirrors.sendTo _ _ _ _).bind fun _ => mirrors_done ()

/-- Builders with the same draft that persist it at mirroring desks learn the same record, or fail
alike. Of builders, the relation may speak of anything but the draft and the record. -/
theorem persist (first : Builder → Builder → Prop)
    (draft : ∀ b b', first b b' → b.draft = b'.draft)
    (learns : ∀ b b' record, first b b' →
      first { b with record := some record } { b' with record := some record }) :
    (Builder.persist window desk).Mirrors (Builder.persist window other)
      (Beside first related) := by
  refine mirrors_get fun ⟨b, _⟩ ⟨b', _⟩ ⟨firsts, _⟩ => ?_
  dsimp only
  rw [draft b b' firsts]
  refine ((mirrors.createRecord window.client).inside first).bind fun record => ?_
  refine (mirrors_updateFirst fun b b' => learns b b' record).bind fun _ => ?_
  refine ((mirrors.sendTo window.client _ _ _).inside first).bind fun _ => ?_
  split
  · exact ((mirrors.sendTerms window record _).inside first).bind fun _ => mirrors_done record
  · exact mirrors_done record

end Server

end Desk.Mirrors

end PartnerRecords
