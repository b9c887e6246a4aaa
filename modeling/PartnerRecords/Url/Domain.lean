import PartnerRecords.Text.Split
import PartnerRecords.Unicode.Direction
import PartnerRecords.Unicode.Joining
import PartnerRecords.Unicode.Mapping
import PartnerRecords.Unicode.Normal
import PartnerRecords.Url.Punycode

/-!
# Domain names

Names of hosts in the form that is sent: lower case, ASCII only. A name is mapped character by
character and composed; its labels are then checked and, where they go beyond ASCII, written in
Punycode. A label that comes in that form has to stand for one that would be written so.
-/

namespace PartnerRecords.Domain

open Text (splitOn)

/-- Characters that no domain name may hold. -/
def isForbidden (c : Char) : Bool :=
  c.toNat ≤ 0x20 || c.toNat == 0x7F || c == '%' || c == '#' || c == '/' || c == ':' ||
    c == '<' || c == '>' || c == '?' || c == '@' || c == '[' || c == '\\' || c == ']' ||
    c == '^' || c == '|'

def isAscii (c : Char) : Bool :=
  c.toNat < 0x80

/-! ## Mapping -/

/-- A character that may stand as it is. -/
def isValid (c : Char) : Bool :=
  if isAscii c then !isForbidden c && !c.isUpper
  else Unicode.holds Unicode.validRanges c.toNat

/-- The characters that a character stands for. -/
def mapped? (c : Char) : Option (List Char) :=
  let code := c.toNat
  match Unicode.lastWhere? Unicode.mappedRuns (·.first ≤ code) with
  | none => none
  | some run =>
      let distance := code - run.first
      if distance % run.step = 0 ∧ distance / run.step < run.count then
        some (run.target.map fun target => Char.ofNat (target + distance))
      else none

def mapChar? (c : Char) : Option (List Char) :=
  if isAscii c then some [c.toLower]
  else if isValid c then some [c]
  else if Unicode.holds Unicode.ignoredRanges c.toNat then some []
  else mapped? c

def map? (cs : List Char) : Option (List Char) :=
  (cs.mapM mapChar?).map fun parts => Unicode.compose parts.flatten

/-! ## Joiners -/

def nonJoiner : Char := '\u200c'
def joiner : Char := '\u200d'

def joiningType (c : Char) : Nat :=
  (Unicode.valueAt? Unicode.joiningRanges c.toNat).getD 0

/-- The first character that is not transparent joins on a side. -/
def joinsOn (side : Nat) (cs : List Char) : Bool :=
  (cs.dropWhile (joiningType · == 4)).head?.any fun c =>
    joiningType c == side || joiningType c == 3

/-- Whether joiners stand only where they change the shape of their neighbours, given the text
before, last character first. -/
def joinersFit : List Char → List Char → Bool
  | _, [] => true
  | before, c :: rest =>
      let afterVirama := before.head?.any (Unicode.combiningClass · == 9)
      let fits :=
        if c == nonJoiner then afterVirama || (joinsOn 1 before && joinsOn 2 rest)
        else if c == joiner then afterVirama
        else true
      fits && joinersFit (c :: before) rest

/-! ## Direction -/

inductive Direction
  | left
  | right
  | arabicLetter
  | arabicNumber
  | number
  | neutral
  | mark
  | other
deriving DecidableEq, Repr

def direction (c : Char) : Direction :=
  match Unicode.valueAt? Unicode.directionRanges c.toNat with
  | none => .left
  | some 1 => .right
  | some 2 => .arabicLetter
  | some 3 => .arabicNumber
  | some 4 => .number
  | some 10 => .mark
  | some value => if value ≤ 9 then .neutral else .other

def runsRight (d : Direction) : Bool :=
  d == .right || d == .arabicLetter || d == .arabicNumber

/-- The class of the last character that is not a mark satisfies a test. -/
def endsWith (test : Direction → Bool) (classes : List Direction) : Bool :=
  (classes.reverse.dropWhile (· == .mark)).head?.any test

def rightToLeft (classes : List Direction) : Bool :=
  classes.all (fun d => d != .left && d != .other) &&
    endsWith (fun d => runsRight d || d == .number) classes &&
    !(classes.contains .number && classes.contains .arabicNumber)

def leftToRight (classes : List Direction) : Bool :=
  classes.all (fun d => !runsRight d && d != .other) &&
    endsWith (fun d => d == .left || d == .number) classes

/-- Whether a label can stand in a name of which some label runs to the left. -/
def directionFits (label : List Char) : Bool :=
  let classes := label.map direction
  match classes.head? with
  | none => true
  | some .right => rightToLeft classes
  | some .arabicLetter => rightToLeft classes
  | some .left => leftToRight classes
  | some _ => false

/-! ## Labels -/

/-- The longest label that is read from or written in Punycode. -/
def labelLimit : Nat := 1000

/-- The longest text in Punycode that is looked at. -/
def decodeLimit : Nat := 2000

/-- The text that a label in Punycode stands for. -/
def decodeLabel? (code : List Char) : Option (List Char) :=
  if code.isEmpty || decodeLimit < code.length then none
  else if code.getLast? == some '-' || !code.all isAscii then none
  else (Punycode.decode? code).filter fun label =>
    label.length ≤ labelLimit && label.all isValid && Unicode.compose label == label

/-- A label as it is read and as it is sent. -/
structure Label where
  read : List Char
  sent : List Char
deriving DecidableEq, Repr

def Label.ofText? : List Char → Option Label
  | 'x' :: 'n' :: '-' :: '-' :: code =>
      (decodeLabel? code).map fun label => ⟨label, ['x', 'n', '-', '-'] ++ code⟩
  | text =>
      if text.all isAscii then some ⟨text, text⟩
      else if labelLimit < text.length then none
      else some ⟨text, ['x', 'n', '-', '-'] ++ Punycode.encode text⟩

def Label.fits (l : Label) : Bool :=
  !(l.read.head?.any Unicode.isMark) && joinersFit [] l.read

/-- The ASCII form of a domain name. -/
def toAscii? (cs : List Char) : Option (List Char) := do
  let mapped ← map? cs
  if mapped.any isForbidden then none
  let labels ← (splitOn '.' mapped).mapM Label.ofText?
  if !labels.all Label.fits then none
  let mixed := labels.any fun label => (label.read.map direction).any runsRight
  if mixed && !labels.all fun label => directionFits label.read then none
  return ['.'].intercalate (labels.map Label.sent)

end PartnerRecords.Domain
