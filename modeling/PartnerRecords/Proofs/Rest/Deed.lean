import PartnerRecords.Proofs.Act
import PartnerRecords.Rest.Desk

/-!
# Deeds

What is done at a desk is a list of deeds: requests with their replies, calls with their
answers, and reports. A recorded desk keeps this list beside the world of a desk and is
otherwise that desk.
-/

namespace PartnerRecords

def Failure.isOfEntry : Failure → Bool
  | .screen _ => true
  | .addressNotRendered _ _ => true
  | _ => false

def Failure.isManual : Failure → Bool
  | .gridMismatch _ _ _ => true
  | failure => failure.isOfEntry

theorem Failure.isManual_of_isOfEntry (failure : Failure) (ofEntry : failure.isOfEntry = true) :
    failure.isManual = true := by
  cases failure <;> first | rfl | cases ofEntry

inductive Deed
  | sent (request : Request) (reply : Reply)
  | called (call : Call) (answer : Except ScreenError call.Answer)
  | noted (event : Event)

abbrev Exchanges := List (Request × Reply)

namespace Deed

def exchange? : Deed → Option (Request × Reply)
  | .sent request reply => some (request, reply)
  | _ => none

def call? : Deed → Option Call
  | .called call _ => some call
  | _ => none

def exchanges (log : List Deed) : Exchanges :=
  log.filterMap exchange?

def calls (log : List Deed) : List Call :=
  log.filterMap call?

@[simp] theorem exchanges_nil : exchanges [] = [] := rfl

@[simp] theorem calls_nil : calls [] = [] := rfl

@[simp] theorem exchanges_append (log later : List Deed) :
    exchanges (log ++ later) = exchanges log ++ exchanges later :=
  List.filterMap_append

@[simp] theorem calls_append (log later : List Deed) :
    calls (log ++ later) = calls log ++ calls later :=
  List.filterMap_append

@[simp] theorem exchanges_sent (request : Request) (reply : Reply) (log : List Deed) :
    exchanges (.sent request reply :: log) = (request, reply) :: exchanges log := rfl

@[simp] theorem exchanges_called (call : Call) (answer : Except ScreenError call.Answer)
    (log : List Deed) : exchanges (.called call answer :: log) = exchanges log := rfl

@[simp] theorem exchanges_noted (event : Event) (log : List Deed) :
    exchanges (.noted event :: log) = exchanges log := rfl

@[simp] theorem calls_sent (request : Request) (reply : Reply) (log : List Deed) :
    calls (.sent request reply :: log) = calls log := rfl

@[simp] theorem calls_called (call : Call) (answer : Except ScreenError call.Answer)
    (log : List Deed) : calls (.called call answer :: log) = call :: calls log := rfl

@[simp] theorem calls_noted (event : Event) (log : List Deed) :
    calls (.noted event :: log) = calls log := rfl

end Deed

namespace Desk

variable {ω : Type}

def recorded (desk : Desk ω) : Desk (List Deed × ω) where
  exchange request := fun (log, world) =>
    let (reply, world) := desk.exchange request world
    (reply, (log ++ [.sent request reply], world))
  call c := fun (log, world) =>
    let (answer, world) := desk.call c world
    (answer, (log ++ [.called c answer], world))
  note event := fun (log, world) => (log ++ [.noted event], desk.note event world)
  readOrder := fun (_, world) => desk.readOrder world

theorem recorded_call {desk : Desk ω} {c : Call} {answer : Except ScreenError c.Answer}
    {log : List Deed} {world after : ω} (made : desk.call c world = (answer, after)) :
    desk.recorded.call c (log, world) = (answer, log ++ [.called c answer], after) := by
  simp only [recorded, made]

/-- What holds of the world goes on to hold after the allowed calls, whatever they answer, and
after reports. -/
structure Keeps (desk : Desk ω) (allowed : Call → Prop) (holds : ω → Prop) : Prop where
  call : ∀ c, allowed c → ∀ world, holds world → holds (desk.call c world).2
  note : ∀ event world, holds world → holds (desk.note event world)

theorem keeps_trivial (desk : Desk ω) : desk.Keeps (fun _ => True) fun _ => True :=
  ⟨fun _ _ _ _ => trivial, fun _ _ _ => trivial⟩

section Acts

variable {desk : Desk ω} {world : ω}

theorem ends_gesture {c : Call} {good : c.Answer → ω → Prop} {bad : Failure → ω → Prop} :
    (desk.gesture c).Ends world good bad ↔
      Act.Ends (desk.call c) world good fun reason after => bad (.screen reason) after :=
  Act.ends_orFail

@[simp] theorem ends_report {event : Event} {good : Unit → ω → Prop}
    {bad : Failure → ω → Prop} :
    (desk.report event).Ends world good bad ↔ good () (desk.note event world) := Iff.rfl

theorem Keeps.gesture {allowed : Call → Prop} {holds : ω → Prop}
    (keeps : desk.Keeps allowed holds) {c : Call} (may : allowed c) :
    (desk.gesture c).Keeps (fun cause => cause.isOfEntry = true) holds := by
  intro world before
  rw [ends_gesture]
  have after := keeps.call c may world before
  unfold Act.Ends
  split
  · next run => rw [run] at after; exact after
  · next run => rw [run] at after; exact ⟨rfl, after⟩

theorem Keeps.report {allowed : Call → Prop} {holds : ω → Prop}
    (keeps : desk.Keeps allowed holds) (event : Event) {causes : Failure → Prop} :
    (desk.report event).Keeps causes holds :=
  fun world before => keeps.note event world before

end Acts

def Grown (log : List Deed) (kind : Deed → Prop) (world : List Deed × ω) : Prop :=
  ∃ deeds, world.1 = log ++ deeds ∧ ∀ deed ∈ deeds, kind deed

section Growing

variable {log : List Deed} {kind : Deed → Prop} {world : List Deed × ω}

theorem grown_refl : Grown world.1 kind world :=
  ⟨[], (List.append_nil _).symm, fun _ member => absurd member List.not_mem_nil⟩

theorem Grown.snoc {deed : Deed} {after : ω} (grown : Grown log kind world) (ofKind : kind deed) :
    Grown log kind (world.1 ++ [deed], after) := by
  obtain ⟨deeds, extended, all⟩ := grown
  refine ⟨deeds ++ [deed], ?_, ?_⟩
  · rw [extended, List.append_assoc]
  · intro other member
    rcases List.mem_append.mp member with earlier | last
    · exact all other earlier
    · rw [List.mem_singleton.mp last]
      exact ofKind

theorem recorded_keeps_grown (desk : Desk ω) {allowed : Call → Prop}
    (calls : ∀ c answer, allowed c → kind (.called c answer))
    (notes : ∀ event, kind (.noted event)) : desk.recorded.Keeps allowed (Grown log kind) where
  call c may _ grown := grown.snoc (calls c _ may)
  note event _ grown := grown.snoc (notes event)

end Growing

abbrev Unasked (log : List Deed) : List Deed × ω → Prop :=
  Grown log fun deed => deed.exchange? = none

theorem Unasked.exchanges_eq {log : List Deed} {world : List Deed × ω}
    (unasked : Unasked log world) : Deed.exchanges world.1 = Deed.exchanges log := by
  obtain ⟨deeds, grown, noRequest⟩ := unasked
  have silent : Deed.exchanges deeds = [] := List.filterMap_eq_nil_iff.mpr noRequest
  rw [grown, Deed.exchanges_append, silent, List.append_nil]

/-- Calls and reports are no requests. -/
theorem recorded_keeps_unasked (desk : Desk ω) (log : List Deed) :
    desk.recorded.Keeps (fun _ => True) (Unasked log) :=
  desk.recorded_keeps_grown (fun _ _ _ => rfl) fun _ => rfl

end Desk

end PartnerRecords
