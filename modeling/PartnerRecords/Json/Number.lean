import PartnerRecords.Decimal.Shortest
import PartnerRecords.Text.Digits

/-!
# Numbers of the data format

A written number without fraction and exponent that fits 64 bits is whole. Every other one
is real: its leading digits that fit an unsigned 64-bit word are scaled by a power of ten.
Minus zero is real, and a number beyond the greatest finite one has no value.
-/

namespace PartnerRecords.Json

open Decimal (Binary64)
open Text (appendDigit signedLimit valueBelow? wordLimit)

inductive Number
  | whole (value : Int)
  | real (value : Binary64)
deriving DecidableEq, Repr

/-- The parts of a number as it is written, digits as characters. -/
structure Literal where
  negative : Bool
  integer : List Char
  fraction : Option (List Char)
  exponent : Option (Bool × List Char)
deriving DecidableEq, Repr

/-- Exponents from this one on are not told apart: the texts that would tell them are far too
long. -/
def exponentLimit : Nat := 0x80000000

def exponentValue (digits : List Char) : Nat :=
  (valueBelow? exponentLimit 10 digits).getD exponentLimit

/-- The digits after a point, if one stands there, and the rest. -/
def splitFraction : List Char → Option (Option (List Char) × List Char)
  | '.' :: rest =>
      let digits := rest.takeWhile Char.isDigit
      if digits.isEmpty then none else some (some digits, rest.dropWhile Char.isDigit)
  | rest => some (none, rest)

/-- The sign and digits of an exponent that ends the text; `true` is minus. -/
def splitExponent : List Char → Option (Option (Bool × List Char))
  | [] => some none
  | mark :: rest =>
      if mark != 'e' && mark != 'E' then none
      else
        let (negative, digits) := match rest with
          | '-' :: digits => (true, digits)
          | '+' :: digits => (false, digits)
          | digits => (false, digits)
        if digits.isEmpty || !digits.all Char.isDigit then none
        else some (some (negative, digits))

namespace Literal

def ofChars? (cs : List Char) : Option Literal := do
  let (negative, cs) := match cs with
    | '-' :: rest => (true, rest)
    | _ => (false, cs)
  let integer := cs.takeWhile Char.isDigit
  if integer.isEmpty || (integer.length != 1 && integer.head? == some '0') then none
  let (fraction, rest) ← splitFraction (cs.dropWhile Char.isDigit)
  let exponent ← splitExponent rest
  return ⟨negative, integer, fraction, exponent⟩

/-- A decimal significand below `2^64` with its exponent. -/
structure Scaled where
  significand : Nat
  exponent : Int
deriving DecidableEq, Repr

/-- Appends digits as long as the significand fits. The first that does not, and all after it,
only move the exponent, by the given amount each. -/
def Scaled.absorb (perDigit perDropped : Int) : Scaled → List Char → Scaled
  | s, [] => s
  | s, digit :: rest =>
      let next := appendDigit 10 s.significand digit
      if next < wordLimit then absorb perDigit perDropped ⟨next, s.exponent + perDigit⟩ rest
      else ⟨s.significand, s.exponent + perDropped * (rest.length + 1)⟩

def scaled (l : Literal) : Scaled :=
  let whole := Scaled.absorb 0 1 ⟨0, 0⟩ l.integer
  let all := Scaled.absorb (-1) 0 whole (l.fraction.getD [])
  match l.exponent with
  | none => all
  | some (true, digits) => ⟨all.significand, all.exponent - exponentValue digits⟩
  | some (false, digits) => ⟨all.significand, all.exponent + exponentValue digits⟩

def real? (l : Literal) : Option Number := do
  let start ← Binary64.ofNat l.negative l.scaled.significand
  let value ← start.scale l.scaled.exponent
  return .real value

/-- The value of a written number, if there is one. -/
def number? (l : Literal) : Option Number :=
  match l.fraction, l.exponent with
  | none, none =>
      match valueBelow? wordLimit 10 l.integer with
      | none => l.real?
      | some value =>
          if !l.negative then some (.whole value)
          else if 0 < value ∧ value ≤ signedLimit then some (.whole (-(value : Int)))
          else l.real?
  | _, _ => l.real?

end Literal

/-- The number as it is written back. -/
def Number.text : Number → String
  | .whole value => toString value
  | .real value => value.text

end PartnerRecords.Json
