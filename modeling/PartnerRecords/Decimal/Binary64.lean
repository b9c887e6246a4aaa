/-!
# Finite binary64 numbers

A number is a sign, a significand and a power of two, so that rounding, products and
quotients are exact arithmetic on naturals followed by one rounding to nearest, a half
going to the even neighbour.
-/

namespace PartnerRecords.Decimal

structure Binary64 where
  negative : Bool
  significand : Nat
  exponent : Int
deriving DecidableEq, Repr

def twos (places : Nat) : Nat :=
  Nat.pow 2 places

def tens (places : Nat) : Nat :=
  Nat.pow 10 places

/-- The least significand with 53 binary digits. -/
def leastFull : Nat := 0x10000000000000

/-- The whole number nearest to a quotient; of two the even one. -/
def nearest (num den : Nat) : Nat :=
  let quotient := num / den
  let rest := num % den
  if 2 * rest < den then quotient
  else if den < 2 * rest then quotient + 1
  else quotient + quotient % 2

/-- A quotient divided by a power of two. -/
def overPower (num den : Nat) (exponent : Int) : Nat × Nat :=
  (num * twos (-exponent).toNat, den * twos exponent.toNat)

namespace Binary64

/-- The exponent at which a quotient has 53 binary digits, but never below the least one. -/
def exponentFor (num den : Nat) : Int :=
  let guess : Int := (num.log2 : Int) - den.log2 - 52
  let scaled := overPower num den guess
  max (-1074) (if scaled.1 < leastFull * scaled.2 then guess - 1 else guess)

/-- The number nearest to a quotient, unless that is beyond the greatest finite one. -/
def ofRatio (negative : Bool) (num den : Nat) : Option Binary64 :=
  if num = 0 then some ⟨negative, 0, -1074⟩
  else
    let exponent := exponentFor num den
    let scaled := overPower num den exponent
    let significand := nearest scaled.1 scaled.2
    let rounded : Binary64 :=
      if significand = 2 * leastFull then ⟨negative, leastFull, exponent + 1⟩
      else ⟨negative, significand, exponent⟩
    if 971 < rounded.exponent then none else some rounded

def ofNat (negative : Bool) (n : Nat) : Option Binary64 :=
  ofRatio negative n 1

/-- The magnitude as a quotient of naturals. -/
def ratio (x : Binary64) : Nat × Nat :=
  (x.significand * twos x.exponent.toNat, twos (-x.exponent).toNat)

def mul (x y : Binary64) : Option Binary64 :=
  ofRatio (x.negative != y.negative) (x.ratio.1 * y.ratio.1) (x.ratio.2 * y.ratio.2)

def div (x y : Binary64) : Option Binary64 :=
  ofRatio (x.negative != y.negative) (x.ratio.1 * y.ratio.2) (x.ratio.2 * y.ratio.1)

/-- A power of ten, rounded. -/
def tenTo (places : Nat) : Option Binary64 :=
  ofNat false (tens places)

/-- Divides by a power of ten in steps of at most 308 places, each step rounded. -/
def scaleDown (x : Binary64) (places : Nat) : Option Binary64 :=
  if places ≤ 308 then (tenTo places).bind x.div
  else if x.significand = 0 then some x
  else (tenTo 308).bind fun step => (x.div step).bind fun y => scaleDown y (places - 308)
termination_by places

/-- Multiplies by a power of ten, or divides by one, in rounded steps. -/
def scale (x : Binary64) (exponent : Int) : Option Binary64 :=
  if exponent < 0 then x.scaleDown exponent.natAbs
  else if exponent ≤ 308 then (tenTo exponent.natAbs).bind x.mul
  else if x.significand = 0 then some x
  else none

end Binary64

end PartnerRecords.Decimal
