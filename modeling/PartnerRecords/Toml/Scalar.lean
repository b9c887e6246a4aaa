import PartnerRecords.Text.Digits
import PartnerRecords.Text.Split

/-!
# Scalars of settings files

What an unquoted run of characters means: a truth value, a whole number in one of four
radices, a real number, or a point in time. The first characters after a sign decide which
kind a number is. A whole number is kept as it is written: whether its characters are digits
of its radix is found out only by who asks for its value.
-/

namespace PartnerRecords.Toml

open Text (isDigitIn splitOn valueBelow? wordLimit)

/-- A whole number as it is written, without the underscores between its digits. -/
structure Numeral where
  radix : Nat
  text : List Char
deriving DecidableEq, Repr

inductive Scalar
  | boolean (value : Bool)
  | integer (numeral : Numeral)
  | real
  | moment
deriving DecidableEq, Repr

def isSign (c : Char) : Bool :=
  c == '+' || c == '-'

/-- The value of a numeral: digits of its radix, at least one, after an optional sign. What does
not fit 64 bits has none. -/
def Numeral.value? (n : Numeral) : Option Int :=
  let digits := if n.text.head?.any isSign then n.text.drop 1 else n.text
  if digits.isEmpty || !digits.all (isDigitIn n.radix) then none
  else
    (valueBelow? wordLimit n.radix digits).map fun size =>
      if n.text.head? = some '-' then -(size : Int) else size

/-- Removes underscores, each of which stands between characters that pass for digits. -/
def ungroup? (isDigit : Char → Bool) (cs : List Char) : Option (List Char) :=
  match splitOn '_' cs with
  | [whole] => some whole
  | parts =>
      if parts.all (!·.isEmpty) && (parts.drop 1).all (·.head?.any isDigit) &&
          parts.dropLast.all (·.getLast?.any isDigit) then
        some parts.flatten
      else none

/-! ## Real numbers -/

def isGroupedDigit (c : Char) : Bool :=
  c.isDigit || c == '_'

/-- The text after digits and underscores, if there is a digit; no second one after a zero,
where zeros may not lead. -/
def afterDigits? (zerosLead : Bool) (cs : List Char) : Option (List Char) :=
  let count := ((cs.takeWhile isGroupedDigit).filter Char.isDigit).length
  if count = 0 ∨ (1 < count ∧ !zerosLead ∧ cs.head? = some '0') then none
  else some (cs.dropWhile isGroupedDigit)

def afterFraction? : List Char → Option (List Char)
  | '.' :: cs => afterDigits? true cs
  | cs => some cs

def isExponentMark (c : Char) : Bool :=
  c == 'e' || c == 'E'

def afterExponent? : List Char → Option (List Char)
  | [] => some []
  | c :: cs =>
      if isExponentMark c then
        afterDigits? true (if cs.head?.any isSign then cs.drop 1 else cs)
      else some (c :: cs)

/-- Whether a text without a sign is a mantissa with a fraction, an exponent or both. -/
def isReal (cs : List Char) : Bool :=
  ((afterDigits? false cs).bind afterFraction?).bind afterExponent? == some []

/-! ## Points in time -/

/-- A number of exactly two digits at the head of a text. -/
def twoDigits? : List Char → Option (Nat × List Char)
  | a :: b :: rest =>
      if a.isDigit && b.isDigit then
        some (10 * (a.toNat - '0'.toNat) + (b.toNat - '0'.toNat), rest)
      else none
  | _ => none

def daysIn (year month : Nat) : Nat :=
  if month = 2 then
    if year % 4 = 0 ∧ (year % 100 ≠ 0 ∨ year % 400 = 0) then 29 else 28
  else if month = 4 ∨ month = 6 ∨ month = 9 ∨ month = 11 then 30
  else 31

/-- The text after a date. -/
def afterDate? (cs : List Char) : Option (List Char) := do
  let (century, cs) ← twoDigits? cs
  let (year, cs) ← twoDigits? cs
  let '-' :: cs := cs | none
  let (month, cs) ← twoDigits? cs
  let '-' :: cs := cs | none
  let (day, cs) ← twoDigits? cs
  if 1 ≤ month ∧ month ≤ 12 ∧ 1 ≤ day ∧ day ≤ daysIn (100 * century + year) month then some cs
  else none

/-- The text after hours and minutes. -/
def afterMinutes? (cs : List Char) : Option (List Char) := do
  let (hours, cs) ← twoDigits? cs
  let ':' :: cs := cs | none
  let (minutes, cs) ← twoDigits? cs
  if hours ≤ 23 ∧ minutes ≤ 59 then some cs else none

/-- The text after a time of day, whose seconds may be left out. -/
def afterTime? (cs : List Char) : Option (List Char) := do
  match ← afterMinutes? cs with
  | ':' :: cs => do
      let (seconds, cs) ← twoDigits? cs
      if 60 < seconds then none
      match cs with
      | '.' :: cs =>
          if cs.head?.any Char.isDigit then some (cs.dropWhile Char.isDigit) else none
      | cs => some cs
  | cs => some cs

def isOffset : List Char → Bool
  | [] => true
  | ['Z'] => true
  | ['z'] => true
  | '+' :: cs => afterMinutes? cs == some []
  | '-' :: cs => afterMinutes? cs == some []
  | _ => false

def isMoment (cs : List Char) : Bool :=
  match afterDate? cs with
  | some [] => true
  | some (separator :: cs) =>
      (separator == 'T' || separator == 't' || separator == ' ') && (afterTime? cs).any isOffset
  | none => afterTime? cs == some []

/-! ## All scalars -/

/-- The whole number in a radix, once the underscores are out. -/
def Scalar.whole? (radix : Nat) (cs : List Char) : Option Scalar :=
  (ungroup? (isDigitIn 16) cs).map fun text => .integer ⟨radix, text⟩

/-- The whole number in a radix that a letter has announced; there may be no digit yet. -/
def announced? (radix : Nat) (digits : List Char) : Option Scalar :=
  if digits.all fun c => isDigitIn radix c || c == '_' then Scalar.whole? radix digits else none

/-- What a run is whose text after the sign begins with a decimal digit or an underscore. -/
def decimal? (run unsigned : List Char) : Option Scalar :=
  let rest := unsigned.dropWhile Char.isDigit
  if rest.head?.any fun c => c == '-' || c == ':' then
    if isMoment run then some .moment else none
  else if rest.contains ' ' then none
  else if rest.any fun c => c == '.' || isExponentMark c then
    if isReal unsigned then (ungroup? Char.isDigit run).map fun _ => .real else none
  else if !rest.isEmpty && rest.head? != some '_' then none
  else if unsigned.length != 1 && unsigned.head? == some '0' then none
  else Scalar.whole? 10 run

/-- What a run is, given the text after its sign. -/
def number? (run unsigned : List Char) : Option Scalar :=
  if unsigned = ['i', 'n', 'f'] ∨ unsigned = ['n', 'a', 'n'] then some .real
  else if unsigned.head?.any isGroupedDigit then decimal? run unsigned
  else none

def Scalar.ofRun? (cs : List Char) : Option Scalar :=
  if cs = ['t', 'r', 'u', 'e'] then some (.boolean true)
  else if cs = ['f', 'a', 'l', 's', 'e'] then some (.boolean false)
  else match cs with
    | '0' :: 'x' :: digits => announced? 16 digits
    | '0' :: 'o' :: digits => announced? 8 digits
    | '0' :: 'b' :: digits => announced? 2 digits
    | cs => number? cs (if cs.head?.any isSign then cs.drop 1 else cs)

end PartnerRecords.Toml
