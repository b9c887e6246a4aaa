/-!
# Digits

Characters as digits of a radix up to sixteen, and runs of digits as numbers. A run may be far
longer than any number that counts: reading one below a limit stops where the limit is reached,
and finds the value of the whole run exactly if that is below the limit.
-/

namespace PartnerRecords.Text

/-- Numbers of 64 bits without a sign are below this one. -/
def wordLimit : Nat := 0x10000000000000000

/-- Numbers of 64 bits with a sign reach from minus this one to below it. -/
def signedLimit : Nat := 0x8000000000000000

/-- The value of a digit; letters of either case go on after nine. -/
def hexValue? (c : Char) : Option Nat :=
  if c.isDigit then some (c.toNat - '0'.toNat)
  else if 'a' ≤ c && c ≤ 'f' then some (c.toNat - 'a'.toNat + 10)
  else if 'A' ≤ c && c ≤ 'F' then some (c.toNat - 'A'.toNat + 10)
  else none

def isDigitIn (radix : Nat) (c : Char) : Bool :=
  (hexValue? c).any (· < radix)

/-- The number with one more digit at its end. -/
def appendDigit (radix value : Nat) (digit : Char) : Nat :=
  radix * value + (hexValue? digit).getD 0

def valueIn (radix : Nat) (digits : List Char) : Nat :=
  digits.foldl (appendDigit radix) 0

/-- The value of a run of digits, if it is below a limit. -/
def valueBelow? (limit radix : Nat) (digits : List Char) : Option Nat :=
  digits.foldlM (fun value digit =>
    let next := appendDigit radix value digit
    if next < limit then some next else none) 0

theorem le_appendDigit {radix : Nat} (h : 0 < radix) (value : Nat) (digit : Char) :
    value ≤ appendDigit radix value digit :=
  Nat.le_trans (Nat.le_mul_of_pos_left value h) (Nat.le_add_right _ _)

theorem le_foldl_appendDigit {radix : Nat} (h : 0 < radix) (digits : List Char) (value : Nat) :
    value ≤ digits.foldl (appendDigit radix) value := by
  induction digits generalizing value with
  | nil => exact Nat.le_refl value
  | cons digit rest ih => exact Nat.le_trans (le_appendDigit h value digit) (ih _)

theorem valueBelow?_eq {limit radix : Nat} (hlimit : 0 < limit) (hradix : 0 < radix)
    (digits : List Char) :
    valueBelow? limit radix digits =
      if valueIn radix digits < limit then some (valueIn radix digits) else none := by
  suffices hfrom : ∀ value < limit,
      digits.foldlM (fun value digit =>
        let next := appendDigit radix value digit
        if next < limit then some next else none) value =
      if digits.foldl (appendDigit radix) value < limit then
        some (digits.foldl (appendDigit radix) value) else none from
    hfrom 0 hlimit
  induction digits with
  | nil => intro value hvalue; simp [hvalue]
  | cons digit rest ih =>
    intro value _
    simp only [List.foldlM_cons, List.foldl_cons]
    by_cases hnext : appendDigit radix value digit < limit
    · simp only [hnext, if_true]
      exact ih _ hnext
    · have hle := le_foldl_appendDigit hradix rest (appendDigit radix value digit)
      have hlast : ¬ rest.foldl (appendDigit radix) (appendDigit radix value digit) < limit := by
        omega
      simp [hnext, hlast]

end PartnerRecords.Text
