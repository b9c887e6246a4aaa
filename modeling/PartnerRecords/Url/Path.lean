import PartnerRecords.Text.Percent
import PartnerRecords.Text.Split
import PartnerRecords.Url.Basic

/-!
# Paths of URLs

A path is walked segment by segment: dot segments lead on the spot or up, and the name of a
drive is never left again. Under a scheme of files a drive may begin the path only, and takes
the place of a host.
-/

namespace PartnerRecords.Url

open Text (splitBy)

/-- Tabs and line ends, which stand in no part of a URL. -/
def isIgnored (c : Char) : Bool :=
  c == '\t' || c == '\n' || c == '\r'

def visible (cs : List Char) : List Char :=
  cs.filter fun c => !isIgnored c

def encoded (set : Char → Bool) (cs : List Char) : String :=
  String.ofList (Text.Percent.encode set cs)

/-! ## Segments -/

/-- A segment with the escapes of its dots resolved. -/
def undot : List Char → List Char
  | '%' :: '2' :: 'e' :: rest => '.' :: undot rest
  | '%' :: '2' :: 'E' :: rest => '.' :: undot rest
  | c :: rest => c :: undot rest
  | [] => []

def isSingleDot (segment : List Char) : Bool :=
  undot segment == ['.']

def isDoubleDot (segment : List Char) : Bool :=
  undot segment == ['.', '.']

def isDriveMark (c : Char) : Bool :=
  c == ':' || c == '|'

/-- A letter with a colon or a bar: the name of a drive. -/
def isDrive : List Char → Bool
  | [letter, mark] => letter.isAlpha && isDriveMark mark
  | _ => false

/-- Whether a segment is the name of a drive, or begins with one and a backslash. -/
def isOnDrive : List Char → Bool
  | [letter, mark] => letter.isAlpha && isDriveMark mark
  | letter :: mark :: '\\' :: _ => letter.isAlpha && isDriveMark mark
  | _ => false

/-- The name of a drive as it is written. -/
def driveName (segment : List Char) : String :=
  String.ofList (segment.take 1 ++ [':'])

/-- The text after the name of a drive, if an ignored character stands between them: it ends
the segment as a slash would. -/
def afterDrive? (segment : List Char) : Option (List Char) :=
  match segment.dropWhile isIgnored with
  | [] => none
  | letter :: rest =>
      match rest.dropWhile isIgnored with
      | ':' :: rest =>
          let behind := visible rest
          if letter.isAlpha && rest.head?.any isIgnored && !behind.isEmpty then some behind
          else none
      | _ => none

/-! ## Walks -/

/-- How far a path has led: its segments, the last one first, and whether a drive stands where
a host would. -/
structure Walk where
  back : List String := []
  onDrive : Bool := false
deriving DecidableEq, Repr

namespace Walk

def segments (w : Walk) : List String :=
  w.back.reverse

def push (w : Walk) (segment : String) : Walk :=
  { w with back := segment :: w.back }

/-- Leaves the last segment, unless it is on a drive. -/
def up (w : Walk) : Walk :=
  match w.back with
  | [] => w
  | last :: before => if isOnDrive last.toList then w else { w with back := before }

/-- Ends a path after a dot segment: what follows the last slash is empty. -/
def settle (w : Walk) (last : Bool) : Walk :=
  if last then w.push "" else w

/-- Reads one segment. Only where nothing is before it can it name the drive of a file. -/
def step (file : Bool) (set : Char → Bool) (last : Bool) (w : Walk) (segment : List Char) : Walk :=
  let text := Text.Percent.encode set (visible segment)
  let first := file && w.back.isEmpty
  match if first then afterDrive? segment else none with
  | some behind => (w.push (driveName text)).push (encoded set behind)
  | none =>
      if isDoubleDot text then w.up.settle last
      else if isSingleDot text then w.settle last
      else if first && isDrive text then ⟨[driveName text], true⟩
      else w.push (String.ofList text)

/-- Reads the segments of a text, of which the last one ends the path. -/
def steps (file : Bool) (set : Char → Bool) : Walk → List (List Char) → Walk
  | w, [] => w
  | w, [segment] => w.step file set true segment
  | w, segment :: rest => steps file set (w.step file set false segment) rest

end Walk

/-! ## Whole paths -/

/-- A path of a file does not begin with an empty segment, unless it is the root. -/
def trimRoot (segments : List String) : List String :=
  match segments.dropWhile (· == "") with
  | [] => if segments.isEmpty then [] else [""]
  | rest => rest

def isSlash (special : Bool) (c : Char) : Bool :=
  c == '/' || (special && c == '\\')

/-- The text after the slash that a path begins with, if there is one. -/
def afterSlash (special : Bool) (cs : List Char) : List Char :=
  match cs.dropWhile isIgnored with
  | [] => []
  | c :: rest => if isSlash special c then rest else c :: rest

/-- Walks the path that a text without its first slash describes. -/
def walk (scheme : String) (cs : List Char) : Walk :=
  Walk.steps (scheme == "file") Text.Percent.pathSet {}
    (splitBy (isSlash (isSpecialScheme scheme)) cs)

/-- Reads a path that is not plain text, with or without its first slash. Without any text it has
one empty segment where the scheme demands a path. -/
def readSegments (scheme : String) (cs : List Char) : List String :=
  let special := isSpecialScheme scheme
  if cs.isEmpty && !special then [] else (walk scheme (afterSlash special cs)).segments

end PartnerRecords.Url
