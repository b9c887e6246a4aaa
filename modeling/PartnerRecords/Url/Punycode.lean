import PartnerRecords.Text.Split

/-!
# Punycode

A label with characters beyond ASCII is written as its ASCII characters, a hyphen, and the
other characters as steps through all places and codes in increasing order. A step is a number
with digits of varying weight.
-/

namespace PartnerRecords.Punycode

def digitChar (digit : Nat) : Char :=
  if digit < 26 then Char.ofNat ('a'.toNat + digit) else Char.ofNat ('0'.toNat + (digit - 26))

def digitValue? (c : Char) : Option Nat :=
  if 'a' ≤ c && c ≤ 'z' then some (c.toNat - 'a'.toNat)
  else if 'A' ≤ c && c ≤ 'Z' then some (c.toNat - 'A'.toNat)
  else if '0' ≤ c && c ≤ '9' then some (c.toNat - '0'.toNat + 26)
  else none

/-- The least digit that ends a number at a position. -/
def threshold (position bias : Nat) : Nat :=
  if position ≤ bias then 1 else min (position - bias) 26

theorem threshold_bounds (position bias : Nat) :
    1 ≤ threshold position bias ∧ threshold position bias ≤ 26 := by
  unfold threshold
  split <;> omega

def spread (step position : Nat) : Nat :=
  if 455 < step then spread (step / 35) (position + 36) else position + 36 * step / (step + 38)
termination_by step
decreasing_by exact Nat.div_lt_self (by omega) (by decide)

/-- The bias after a step. -/
def adapt (step count : Nat) (isFirst : Bool) : Nat :=
  let halved := if isFirst then step / 700 else step / 2
  spread (halved + halved / count) 0

/-- The digits of a step. -/
def digits (bias position step : Nat) : List Char :=
  let least := threshold position bias
  if step < least then [digitChar step]
  else
    digitChar (least + (step - least) % (36 - least)) ::
      digits bias (position + 36) ((step - least) / (36 - least))
termination_by step
decreasing_by
  have := threshold_bounds position bias
  have := Nat.div_le_self (step - threshold position bias) (36 - threshold position bias)
  omega

/-! ## Writing -/

structure Writer where
  out : List Char
  step : Nat
  bias : Nat
  written : Nat

/-- Passes a character while the characters of a code are written. -/
def Writer.pass (basic code : Nat) (w : Writer) (c : Char) : Writer :=
  if c.toNat < code then { w with step := w.step + 1 }
  else if c.toNat = code then
    { out := w.out ++ digits w.bias 36 w.step
      step := 0
      bias := adapt w.step (w.written + 1) (w.written == basic)
      written := w.written + 1 }
  else w

/-- Writes all characters of a code, the codes before the next one being written. -/
def Writer.code (cs : List Char) (basic : Nat) (state : Writer × Nat) (code : Nat) :
    Writer × Nat :=
  let (w, next) := state
  let w := { w with step := w.step + (code - next) * (w.written + 1) }
  let w := cs.foldl (Writer.pass basic code) w
  ({ w with step := w.step + 1 }, code + 1)

/-- Different numbers in increasing order. -/
def insertCode (code : Nat) : List Nat → List Nat
  | [] => [code]
  | next :: rest =>
      if code < next then code :: next :: rest
      else if code = next then next :: rest
      else next :: insertCode code rest

def isBasic (c : Char) : Bool :=
  c.toNat < 0x80

def encode (cs : List Char) : List Char :=
  let basic := cs.filter isBasic
  let codes := ((cs.filter fun c => !isBasic c).map Char.toNat).foldr insertCode []
  let start : Writer := ⟨[], 0, 72, basic.length⟩
  basic ++ (if basic.isEmpty then [] else ['-']) ++
    (codes.foldl (Writer.code cs basic.length) (start, 0x80)).1.out

/-! ## Reading -/

/-- The text so far, the code and place reached, and the number that is being read. -/
structure Reader where
  out : List Char
  code : Nat := 0x80
  place : Nat := 0
  bias : Nat := 72
  step : Nat := 0
  weight : Nat := 1
  position : Nat := 36

/-- Ends a number: its step leads to the place of the next character. -/
def Reader.put (r : Reader) (step : Nat) : Option Reader :=
  let length := r.out.length + 1
  let reached := r.place + step
  let code := r.code + reached / length
  let place := reached % length
  if code.isValidChar then
    some {
      out := r.out.take place ++ Char.ofNat code :: r.out.drop place
      code
      place := place + 1
      bias := adapt step length (r.place == 0) }
  else none

def Reader.read (r : Reader) (c : Char) : Option Reader := do
  let digit ← digitValue? c
  let step := r.step + digit * r.weight
  let least := threshold r.position r.bias
  if digit < least then r.put step
  else
    return { r with step, weight := r.weight * (36 - least), position := r.position + 36 }

/-- The text before the last hyphen and the text after it. A hyphen with nothing before it does
not split. -/
def splitHyphen (cs : List Char) : List Char × List Char :=
  let backwards := cs.reverse
  match (backwards.dropWhile (· != '-')).drop 1 with
  | [] => ([], cs)
  | basic => (basic.reverse, (backwards.takeWhile (· != '-')).reverse)

/-- The label that a text is written for. -/
def decode? (cs : List Char) : Option (List Char) := do
  let (basic, rest) := splitHyphen cs
  let last ← rest.foldlM Reader.read { out := basic }
  if last.position = 36 then some last.out else none

end PartnerRecords.Punycode
