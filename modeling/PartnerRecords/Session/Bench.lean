import PartnerRecords.Rest.Desk
import PartnerRecords.Screen.Basic

/-!
# Benches

A desk to try things on: a server that follows a script or cannot be reached, the screen in
memory, and faults that strike a given call of a given kind. What the server receives and what
is reported is logged.
-/

namespace PartnerRecords

/-- Replies by method and URL. Each request takes one; the last one stays. -/
abbrev Script := Dict (List Reply)

namespace Script

def notFound : Reply :=
  .answered 404 (some .empty)

def key (request : Request) : String :=
  request.method ++ " " ++ request.url.sent.text

def answer (script : Script) (request : Request) : Reply × Script :=
  match script.get? (key request) with
  | some [reply] => (reply, script)
  | some (reply :: rest) => (reply, script.insert (key request) rest)
  | _ => (notFound, script)

end Script

inductive Network
  | offline
  | scripted (script : Script)

inductive CallKind
  | visitWindow
  | selectTab
  | pressAddNew
  | writeText
  | pickOption
  | clickFormTitle
  | clickCheckbox
  | openAddressEditor
  | closeAddressEditor
  | addressSummary
  | pressDone
  | countRows
deriving DecidableEq, Repr

def Call.kind : Call → CallKind
  | .visitWindow _ _ => .visitWindow
  | .selectTab _ => .selectTab
  | .pressAddNew => .pressAddNew
  | .writeText _ _ _ => .writeText
  | .pickOption _ _ _ _ => .pickOption
  | .clickFormTitle => .clickFormTitle
  | .clickCheckbox _ _ _ => .clickCheckbox
  | .openAddressEditor _ => .openAddressEditor
  | .closeAddressEditor => .closeAddressEditor
  | .addressSummary _ => .addressSummary
  | .pressDone => .pressDone
  | .countRows => .countRows

inductive FaultEffect
  | fails (text : String)
  | showsSummary (text : String)
  | showsCount (rows : Nat)
deriving DecidableEq, Repr

/-- What happens instead of the call of a kind with a number, counted from one. Without an effect
the call goes on, and no later fault strikes it. -/
structure Fault where
  kind : CallKind
  nth : Nat
  effect : Option FaultEffect
deriving DecidableEq, Repr

/-- The answer that an effect gives to a call, if it gives one. -/
def FaultEffect.answer? : FaultEffect → (c : Call) → Option (Except ScreenError c.Answer)
  | .fails text, _ => some (.error (.driver text))
  | .showsSummary text, .addressSummary _ => some (.ok text)
  | .showsCount rows, .countRows => some (.ok rows)
  | _, _ => none

structure Bench where
  network : Network
  screen : Screen := {}
  faults : List Fault := []
  /-- The kinds of all calls so far, last first. -/
  seen : List CallKind := []
  received : List Request := []
  reported : List Event := []

namespace Bench

def exchange (request : Request) (b : Bench) : Reply × Bench :=
  match b.network with
  | .offline => (.unsent, b)
  | .scripted script =>
      let (reply, script) := script.answer request
      (reply, { b with network := .scripted script, received := b.received ++ [request] })

/-- The effect that strikes the next call of a kind. -/
def strike? (b : Bench) (kind : CallKind) : Option FaultEffect :=
  let number := b.seen.count kind + 1
  (b.faults.find? fun fault => fault.kind = kind ∧ fault.nth = number).bind Fault.effect

def call (c : Call) (b : Bench) : Except ScreenError c.Answer × Bench :=
  let struck := (b.strike? c.kind).bind (·.answer? c)
  let b := { b with seen := c.kind :: b.seen }
  match struck with
  | some answer => (answer, b)
  | none =>
      let (answer, screen) := b.screen.call c
      (answer, { b with screen })

def note (event : Event) (b : Bench) : Bench :=
  { b with reported := b.reported ++ [event] }

/-- The bench as a desk. Reads come back in the order in which they go out. -/
def desk : Desk Bench where
  exchange := exchange
  call := call
  note := note
  readOrder := fun _ => .inTurn

end Bench

end PartnerRecords
