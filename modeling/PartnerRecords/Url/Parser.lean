import PartnerRecords.Url.Basic
import PartnerRecords.Url.Address
import PartnerRecords.Url.Domain
import PartnerRecords.Url.Path

/-!
# Reading URLs

A URL is read from left to right: scheme, authority, path, query, fragment. Every part is
written back with the characters of its encode set escaped, and dot segments of the path are
resolved.
-/

namespace PartnerRecords.Url

/-- Removes controls and spaces at both ends. -/
def trimEnds (cs : List Char) : List Char :=
  let outside := fun (c : Char) => decide (c.toNat ≤ 0x20)
  ((cs.dropWhile outside).reverse.dropWhile outside).reverse

def isSchemeChar (c : Char) : Bool :=
  c.isAlphanum || c == '+' || c == '-' || c == '.'

/-- The scheme in lower case and what follows its colon. -/
def splitScheme? (cs : List Char) : Option (String × List Char) :=
  if (cs.head?.any Char.isAlpha) then
    match cs.dropWhile isSchemeChar with
    | ':' :: rest => some (String.ofList ((cs.takeWhile isSchemeChar).map Char.toLower), rest)
    | _ => none
  else none

/-- The part of a text before its first query or fragment mark, and the rest. -/
def splitTail (cs : List Char) : List Char × List Char :=
  let inside := fun c => c != '?' && c != '#'
  (cs.takeWhile inside, cs.dropWhile inside)

/-- The query and the fragment of the text that follows the path. -/
def readTail (special : Bool) (cs : List Char) : Option String × Option String :=
  let fragment := fun (cs : List Char) => match cs with
    | '#' :: text => some (encoded Text.Percent.fragmentSet text)
    | _ => none
  match cs with
  | '?' :: rest =>
      let set := if special then Text.Percent.specialQuerySet else Text.Percent.querySet
      (some (encoded set (rest.takeWhile (· != '#'))), fragment (rest.dropWhile (· != '#')))
  | rest => (none, fragment rest)

/-! ## Authorities -/

/-- The text before the last at-sign and the text after it. -/
def splitCredentials (cs : List Char) : Option (List Char × List Char) :=
  if cs.contains '@' then
    let backwards := cs.reverse
    some ((backwards.dropWhile (· != '@')).drop 1 |>.reverse,
      (backwards.takeWhile (· != '@')).reverse)
  else none

/-- The text before the colon that ends a host, and the rest. Brackets protect colons. -/
def splitHost (bracketed : Bool) : List Char → List Char × List Char
  | [] => ([], [])
  | c :: rest =>
      if c == ':' && !bracketed then ([], c :: rest)
      else
        let bracketed := c == '[' || (c != ']' && bracketed)
        let (host, tail) := splitHost bracketed rest
        (c :: host, tail)

def isForbiddenHostChar (c : Char) : Bool :=
  c == '\x00' || c == '\t' || c == '\n' || c == '\r' || c == ' ' || c == '#' || c == '/' ||
    c == ':' || c == '<' || c == '>' || c == '?' || c == '@' || c == '[' || c == '\\' ||
    c == ']' || c == '^' || c == '|'

def readBracketed (inner : List Char) : Except UrlError Host :=
  if inner.getLast? = some ']' then
    match Address.ipv6? inner.dropLast with
    | some pieces => .ok (.ipv6 pieces)
    | none => .error .invalidIpv6
  else .error .invalidIpv6

/-- The host of a URL whose scheme demands one. -/
def readSpecialHost (cs : List Char) : Except UrlError Host :=
  match cs with
  | '[' :: inner => readBracketed inner
  | _ =>
      match (Text.Percent.decodeText? (String.ofList cs)).bind (Domain.toAscii? ·.toList) with
      | none => .error .invalidDomainName
      | some [] => .error .emptyHost
      | some domain =>
          if Address.endsInNumber domain then
            match Address.ipv4? domain with
            | some address => .ok (.ipv4 address)
            | none => .error .invalidIpv4
          else .ok (.name (String.ofList domain))

def readOtherHost (cs : List Char) : Except UrlError Host :=
  match cs with
  | '[' :: inner => readBracketed inner
  | _ =>
      if cs.any isForbiddenHostChar then .error .invalidHostCharacter
      else .ok (.name (encoded Text.Percent.controlSet cs))

/-- The port at the head of a text, and the text after it; the default port of the scheme is not
kept. A backslash may end a port, whatever it means elsewhere. -/
def readPort (scheme : String) (cs : List Char) : Except UrlError (Option Nat × List Char) :=
  let digits := cs.takeWhile Char.isDigit
  let rest := cs.dropWhile Char.isDigit
  match Text.valueBelow? 0x10000 10 digits with
  | none => .error .invalidPort
  | some port =>
      if rest.head?.any (· != '\\') then .error .invalidPort
      else if digits.isEmpty || defaultPort? scheme = some port then .ok (none, rest)
      else .ok (some port, rest)

/-- The user name and the password, each with its characters escaped. -/
def readCredentials (cs : List Char) : String × String :=
  let before := fun c => c != ':'
  (encoded Text.Percent.userinfoSet (cs.takeWhile before),
    encoded Text.Percent.userinfoSet ((cs.dropWhile before).drop 1))

/-- Reads an authority that is followed by the given text, and says where the path begins. -/
def readAuthority (scheme : String) (cs rest : List Char) :
    Except UrlError (Authority × List Char) := do
  let special := isSpecialScheme scheme
  if cs = ['@'] ∧ !rest.isEmpty then throw .emptyHost
  let (credentials, hostPort) := (splitCredentials cs).getD ([], cs)
  let (username, password) := readCredentials credentials
  let (hostText, portText) := splitHost false hostPort
  if hostText.isEmpty then
    if special || !portText.isEmpty || username != "" || password != "" then throw .emptyHost
    return ({ username, password }, rest)
  let host ← if special then readSpecialHost hostText else readOtherHost hostText
  let (port, behind) ← readPort scheme (portText.drop 1)
  return ({ username, password, host := some host, port }, behind ++ rest)

/-- The authority of a file: a host without credentials and port, or nothing. -/
def readFileHost (cs : List Char) : Except UrlError (Option Host) :=
  if cs.isEmpty then .ok none
  else match readSpecialHost cs with
    | .error cause => .error cause
    | .ok (.name "localhost") => .ok none
    | .ok host => .ok (some host)

/-! ## Whole URLs -/

def finish (scheme : String) (authority : Option Authority) (path : UrlPath)
    (tail : List Char) : Url :=
  let (query, fragment) := readTail (isSpecialScheme scheme) tail
  { scheme, authority, path, query, fragment }

/-- Reads what follows the slashes of an authority. -/
def afterSlashes (scheme : String) (cs : List Char) : Except UrlError Url := do
  let special := isSpecialScheme scheme
  let inside := fun c => !isSlash special c && c != '?' && c != '#'
  let (authority, rest) ← readAuthority scheme (cs.takeWhile inside) (cs.dropWhile inside)
  let (path, tail) := splitTail rest
  return finish scheme (some authority) (.segments (readSegments scheme path)) tail

/-- Drops so many characters besides those that are ignored. -/
def dropVisible : Nat → List Char → List Char
  | 0, cs => cs
  | count + 1, cs => dropVisible count ((cs.dropWhile isIgnored).drop 1)

/-- Reads what follows the two slashes of a file. An empty host does not take up the slash before
the path. -/
def afterFileSlashes (cs : List Char) : Except UrlError Url := do
  let inside := fun c => !isSlash true c && c != '?' && c != '#'
  let hostText := (visible cs).takeWhile inside
  let drive := isDrive hostText
  let host ← if drive then pure none else readFileHost hostText
  let (path, tail) := splitTail (if drive then cs else dropVisible hostText.length cs)
  let walked := walk "file" (if host.isSome then afterSlash true path else path)
  let host := if walked.onDrive then none else host
  return finish "file" (some { host }) (.segments (trimRoot walked.segments)) (visible tail)

/-- Reads a URL of a file. Its text comes with the ignored characters: one that follows the name
of a drive ends the segment. -/
def readFile (cs : List Char) : Except UrlError Url :=
  let slashes := (visible cs).takeWhile (isSlash true)
  if 2 ≤ slashes.length then afterFileSlashes (dropVisible 2 cs)
  else
    let (path, tail) := splitTail cs
    let segments := trimRoot (readSegments "file" path)
    .ok (finish "file" (some {}) (.segments segments) (visible tail))

/-- Reads a URL without an authority under a scheme that does not demand one. -/
def readOther (scheme : String) (cs : List Char) : Except UrlError Url :=
  match cs with
  | '/' :: '/' :: rest => afterSlashes scheme rest
  | '/' :: _ =>
      let (path, tail) := splitTail cs
      let segments := readSegments scheme path
      let guarded := segments.head? == some "" && 1 < segments.length
      .ok { finish scheme none (.segments segments) tail with guarded }
  | _ =>
      let (path, tail) := splitTail cs
      .ok (finish scheme none (.plain (encoded Text.Percent.controlSet path)) tail)

/-- Reads an absolute URL. -/
def parse (text : String) : Except UrlError Url :=
  let cs := trimEnds text.toList
  match splitScheme? (visible cs) with
  | none => .error .relativeWithoutBase
  | some (scheme, rest) =>
      if scheme = "file" then readFile ((cs.dropWhile (· != ':')).drop 1)
      else if isSpecialScheme scheme then afterSlashes scheme (rest.dropWhile (isSlash true))
      else readOther scheme rest

end PartnerRecords.Url
