import PartnerRecords.Unicode.Combining
import PartnerRecords.Unicode.Composition

/-!
# Composed normal form

Text is decomposed, its marks are put in the order of their classes, and what can be composed
is composed again. Syllables of Hangul are composed by arithmetic.
-/

namespace PartnerRecords.Unicode

def combiningClass (c : Char) : Nat :=
  (valueAt? classRanges c.toNat).getD 0

def isMark (c : Char) : Bool :=
  holds markRanges c.toNat

/-! ## Hangul -/

def hangulBase : Nat := 0xAC00
def leadBase : Nat := 0x1100
def vowelBase : Nat := 0x1161
def tailBase : Nat := 0x11A7

/-- The parts of a syllable. -/
def hangulParts? (code : Nat) : Option (List Nat) :=
  if hangulBase ≤ code ∧ code < hangulBase + 11172 then
    let index := code - hangulBase
    let tail := index % 28
    some ([leadBase + index / 588, vowelBase + index % 588 / 28] ++
      if tail = 0 then [] else [tailBase + tail])
  else none

def composeHangul? (first second : Nat) : Option Nat :=
  if leadBase ≤ first ∧ first < leadBase + 19 ∧ vowelBase ≤ second ∧ second < vowelBase + 21 then
    some (hangulBase + ((first - leadBase) * 21 + (second - vowelBase)) * 28)
  else if hangulBase ≤ first ∧ first < hangulBase + 11172 ∧ (first - hangulBase) % 28 = 0 ∧
      tailBase < second ∧ second < tailBase + 28 then
    some (first + (second - tailBase))
  else none

/-! ## All characters -/

def decomposeChar (c : Char) : List Char :=
  let code := c.toNat
  let listed := (lastWhere? decompositions (·.code ≤ code)).filter (·.code == code)
  match listed, hangulParts? code with
  | some entry, _ => entry.parts.map Char.ofNat
  | none, some parts => parts.map Char.ofNat
  | none, none => [c]

def compose? (first second : Char) : Option Char :=
  let listed := (lastWhere? pairs fun pair =>
    pair.first < first.toNat || (pair.first == first.toNat && pair.second ≤ second.toNat)).filter
      fun pair => pair.first == first.toNat && pair.second == second.toNat
  (listed.map Pair.composed <|> composeHangul? first.toNat second.toNat).map Char.ofNat

/-- Characters with their classes, last first: those that have their places, and the marks after
them. -/
structure MarkOrder where
  placed : List (Char × Nat) := []
  marks : List (Char × Nat) := []

namespace MarkOrder

/-- Puts the marks in the order of their classes; those of one class stay in the order in which
they came. -/
def close (o : MarkOrder) : List (Char × Nat) :=
  (o.marks.reverse.mergeSort fun a b => a.2 ≤ b.2).reverse ++ o.placed

def step (o : MarkOrder) (c : Char) : MarkOrder :=
  let rank := combiningClass c
  if rank = 0 then ⟨(c, 0) :: o.close, []⟩ else { o with marks := (c, rank) :: o.marks }

end MarkOrder

/-- Characters with their classes, the marks of each run ordered by class. -/
def orderMarks (cs : List Char) : List (Char × Nat) :=
  (cs.foldl MarkOrder.step {}).close.reverse

/-- What has been composed so far, last character first: everything before the last starter,
that starter, the marks after it, and the class of the last of them. -/
structure Composer where
  before : List Char := []
  starter : Option Char := none
  marks : List Char := []
  lastClass : Nat := 0

namespace Composer

def text (s : Composer) : List Char :=
  s.marks ++ s.starter.toList ++ s.before

/-- Adds a character: composed with the starter unless another one stands between that is no
lesser mark, or behind what there is. -/
def step (s : Composer) (entry : Char × Nat) : Composer :=
  let (c, rank) := entry
  let free := s.marks.isEmpty || (s.lastClass < rank)
  match s.starter.bind fun starter => if free then compose? starter c else none with
  | some composed => { s with starter := some composed }
  | none =>
      if rank = 0 then ⟨s.text, some c, [], 0⟩
      else { s with marks := c :: s.marks, lastClass := rank }

end Composer

/-- The composed normal form of a text. -/
def compose (cs : List Char) : List Char :=
  ((orderMarks (cs.flatMap decomposeChar)).foldl Composer.step {}).text.reverse

end PartnerRecords.Unicode
