import PartnerRecords.Decimal.Binary64

/-!
# Shortest decimals

The decimal with the fewest digits that rounds to a given binary64 number, and of those the
nearest. Numbers below `10^16` and from `10^-5` up are written in full, with at least one
digit on each side of the point; all others with an exponent.
-/

namespace PartnerRecords.Decimal

/-- A whole number of steps of a power of ten. -/
structure Scientific where
  digits : Nat
  exponent : Int
deriving DecidableEq, Repr

/-- The place of the leading decimal digit of a positive quotient. -/
def decade (num den : Nat) : Int :=
  if den ≤ num then ((Nat.toDigits 10 (num / den)).length : Int) - 1
  else
    let below := (Nat.toDigits 10 (den / num)).length
    if den ≤ num * tens (below - 1) then 1 - (below : Int) else -(below : Int)

/-- Quarter units of the last binary digit, from the lower to the upper end of the reals that
round to the number, with the number itself between them. -/
structure Interval where
  lower : Nat
  value : Nat
  upper : Nat
  closed : Bool
  exponent : Int
deriving Repr

def Binary64.interval (x : Binary64) : Interval where
  lower :=
    if x.significand = leastFull ∧ -1074 < x.exponent then 4 * x.significand - 1
    else 4 * x.significand - 2
  value := 4 * x.significand
  upper := 4 * x.significand + 2
  closed := x.significand % 2 == 0
  exponent := x.exponent - 2

/-- The two factors that bring steps of a power of ten and units of an interval to one scale. -/
def Interval.factors (i : Interval) (exponent : Int) : Nat × Nat :=
  (tens exponent.toNat * twos (-i.exponent).toNat, twos i.exponent.toNat * tens (-exponent).toNat)

def Interval.holds (i : Interval) (exponent : Int) (digits : Nat) : Bool :=
  let (step, unit) := i.factors exponent
  if i.closed then i.lower * unit ≤ digits * step && digits * step ≤ i.upper * unit
  else i.lower * unit < digits * step && digits * step < i.upper * unit

/-- The nearer of the value's two neighbours on a decimal grid that lies in the interval. -/
def Interval.pick (i : Interval) (exponent : Int) : Option Scientific :=
  let (step, unit) := i.factors exponent
  let floor := i.value * unit / step
  let below := i.value * unit - floor * step
  let above := (floor + 1) * step - i.value * unit
  match i.holds exponent floor, i.holds exponent (floor + 1) with
  | true, true =>
      if below < above || (below == above && floor % 2 == 0) then some ⟨floor, exponent⟩
      else some ⟨floor + 1, exponent⟩
  | true, false => some ⟨floor, exponent⟩
  | false, true => some ⟨floor + 1, exponent⟩
  | false, false => none

/-- Moves trailing zeros of the digits into the exponent. -/
def Scientific.normal (d : Scientific) : Scientific :=
  if h : d.digits % 10 = 0 ∧ 0 < d.digits then normal ⟨d.digits / 10, d.exponent + 1⟩
  else d
termination_by d.digits
decreasing_by exact Nat.div_lt_self h.2 (by decide)

/-- The shortest decimal of a magnitude; seventeen digits are always enough. -/
def Binary64.shortest (x : Binary64) : Scientific :=
  let i := x.interval
  let top := decade (i.value * twos i.exponent.toNat) (twos (-i.exponent).toNat)
  ((List.range 17).findSome? fun more : Nat => i.pick (top - more)).elim ⟨0, 0⟩ Scientific.normal

def zeros (count : Nat) : List Char :=
  List.replicate count '0'

/-- The digits with the point after the given number of places, in full or with an exponent. -/
def Scientific.layout (d : Scientific) : List Char :=
  let digits := Nat.toDigits 10 d.digits
  let point : Int := digits.length + d.exponent
  if point ≤ -5 ∨ 16 < point then
    let power := point - 1
    digits.take 1 ++ (if 1 < digits.length then '.' :: digits.drop 1 else []) ++
      'e' :: (if power < 0 then '-' else '+') :: Nat.toDigits 10 power.natAbs
  else if 0 ≤ d.exponent then digits ++ zeros d.exponent.toNat ++ ['.', '0']
  else if 0 < point then digits.take point.toNat ++ '.' :: digits.drop point.toNat
  else '0' :: '.' :: zeros (-point).toNat ++ digits

def Binary64.text (x : Binary64) : String :=
  let magnitude := if x.significand = 0 then ['0', '.', '0'] else x.shortest.layout
  String.ofList (if x.negative then '-' :: magnitude else magnitude)

end PartnerRecords.Decimal
