/-!
# Tables of character properties

Tables are written as numbers in base 36 with blanks between them, so that a whole property is
one text. They are unpacked into sorted arrays and searched by halving.
-/

namespace PartnerRecords.Unicode

def digitValue (c : Char) : Nat :=
  if c.isDigit then c.toNat - '0'.toNat else c.toNat - 'a'.toNat + 10

/-- The numbers of a text, and the number that its end breaks off. -/
structure Numbers where
  done : Array Nat := #[]
  current : Option Nat := none

def Numbers.step (n : Numbers) (c : Char) : Numbers :=
  if c == ' ' || c == '\n' then ⟨n.current.elim n.done n.done.push, none⟩
  else ⟨n.done, some (36 * n.current.getD 0 + digitValue c)⟩

def numbers (stream : String) : List Nat :=
  let read := stream.toList.foldl Numbers.step {}
  (read.current.elim read.done read.done.push).toList

/-- Codes from a first one to before a last one, with a value. -/
structure Range where
  first : Nat
  stop : Nat
  value : Nat
deriving Repr

/-- Ranges from gaps and lengths. -/
def setRangesFrom (position : Nat) (out : Array Range) : List Nat → Array Range
  | gap :: length :: rest =>
      let first := position + gap
      let stop := first + length
      setRangesFrom stop (out.push ⟨first, stop, 1⟩) rest
  | _ => out

def setRanges (stream : String) : Array Range :=
  setRangesFrom 0 #[] (numbers stream)

/-- Ranges from gaps, lengths and values. -/
def valueRangesFrom (position : Nat) (out : Array Range) : List Nat → Array Range
  | gap :: length :: value :: rest =>
      let first := position + gap
      let stop := first + length
      valueRangesFrom stop (out.push ⟨first, stop, value⟩) rest
  | _ => out

def valueRanges (stream : String) : Array Range :=
  valueRangesFrom 0 #[] (numbers stream)

/-- Codes at equal steps, with the codes that the first of them stands for. -/
structure Run where
  first : Nat
  count : Nat
  step : Nat
  target : List Nat
deriving Repr

def runsFrom (fuel position : Nat) (out : Array Run) (stream : List Nat) : Array Run :=
  match fuel, stream with
  | fuel + 1, gap :: count :: step :: size :: rest =>
      let first := position + gap
      runsFrom fuel (first + (count - 1) * step + 1)
        (out.push ⟨first, count, step, rest.take size⟩) (rest.drop size)
  | _, _ => out

def runs (stream : String) : Array Run :=
  let all := numbers stream
  runsFrom all.length 0 #[] all

structure Decomposition where
  code : Nat
  parts : List Nat
deriving Repr

def decompositionsFrom (fuel position : Nat) (out : Array Decomposition) (stream : List Nat) :
    Array Decomposition :=
  match fuel, stream with
  | fuel + 1, gap :: size :: rest =>
      decompositionsFrom fuel (position + gap + 1) (out.push ⟨position + gap, rest.take size⟩)
        (rest.drop size)
  | _, _ => out

def decompositionsOf (stream : String) : Array Decomposition :=
  let all := numbers stream
  decompositionsFrom all.length 0 #[] all

structure Pair where
  first : Nat
  second : Nat
  composed : Nat
deriving Repr

def pairsFrom (position : Nat) (out : Array Pair) : List Nat → Array Pair
  | gap :: second :: composed :: rest =>
      pairsFrom (position + gap) (out.push ⟨position + gap, second, composed⟩) rest
  | _ => out

def pairsOf (stream : String) : Array Pair :=
  pairsFrom 0 #[] (numbers stream)

/-- How many entries at the head of a sorted array satisfy a test that no later entry does,
given bounds on that number. -/
def countBelow {α : Type} (entries : Array α) (test : α → Bool) (low high : Nat) : Nat :=
  if h : low < high then
    let middle := (low + high) / 2
    if entries[middle]?.any test then countBelow entries test (middle + 1) high
    else countBelow entries test low middle
  else low
termination_by high - low
decreasing_by all_goals omega

/-- The last entry of a sorted array that satisfies a test. -/
def lastWhere? {α : Type} (entries : Array α) (test : α → Bool) : Option α :=
  match countBelow entries test 0 entries.size with
  | 0 => none
  | count + 1 => entries[count]?

/-- The value of the range that holds a code. -/
def valueAt? (ranges : Array Range) (code : Nat) : Option Nat :=
  ((lastWhere? ranges (·.first ≤ code)).filter (code < ·.stop)).map Range.value

def holds (ranges : Array Range) (code : Nat) : Bool :=
  (valueAt? ranges code).isSome

end PartnerRecords.Unicode
