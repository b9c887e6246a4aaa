import PartnerRecords.Text.Percent

/-!
# URLs

A URL is kept in its parts; the path is a list of segments, each preceded by a slash when
written, or plain text under which nothing can be addressed.
-/

namespace PartnerRecords

inductive Host
  | name (text : String)
  | ipv4 (address : Nat)
  | ipv6 (pieces : List Nat)
deriving DecidableEq, Repr

structure Authority where
  username : String := ""
  password : String := ""
  host : Option Host := none
  port : Option Nat := none
deriving DecidableEq, Repr

inductive UrlPath
  | plain (text : String)
  | segments (list : List String)
deriving DecidableEq, Repr

/-- A URL in its parts. A guarded path is written behind a dot, which keeps a path that begins
with two slashes apart from an authority. -/
structure Url where
  scheme : String
  authority : Option Authority
  path : UrlPath
  guarded : Bool := false
  query : Option String := none
  fragment : Option String := none
deriving DecidableEq, Repr

inductive UrlError
  | relativeWithoutBase
  | emptyHost
  | invalidPort
  | invalidIpv4
  | invalidIpv6
  | invalidDomainName
  | invalidHostCharacter
deriving DecidableEq, Repr

def UrlError.message : UrlError → String
  | .relativeWithoutBase => "relative URL without a base"
  | .emptyHost => "empty host"
  | .invalidPort => "invalid port number"
  | .invalidIpv4 => "invalid IPv4 address"
  | .invalidIpv6 => "invalid IPv6 address"
  | .invalidDomainName => "invalid international domain name"
  | .invalidHostCharacter => "invalid domain character"

namespace Host

def ipv4Text (address : Nat) : String :=
  ".".intercalate ([address / 0x1000000, address / 0x10000 % 0x100, address / 0x100 % 0x100,
    address % 0x100].map toString)

/-- The length of the run of zeros at the head. -/
def zeroRun (pieces : List Nat) : Nat :=
  (pieces.takeWhile (· == 0)).length

/-- The first of the longest runs of at least two zeros: its start and length. -/
def longestZeros (pieces : List Nat) : Option (Nat × Nat) :=
  (List.range pieces.length).foldl (fun best start =>
    let length := zeroRun (pieces.drop start)
    if 1 < length && (best.elim 0 Prod.snd) < length then some (start, length) else best) none

def hexText (piece : Nat) : String :=
  String.ofList (Nat.toDigits 16 piece)

def ipv6Text (pieces : List Nat) : String :=
  match longestZeros pieces with
  | none => ":".intercalate (pieces.map hexText)
  | some (start, length) =>
      ":".intercalate ((pieces.take start).map hexText) ++ "::" ++
        ":".intercalate ((pieces.drop (start + length)).map hexText)

def text : Host → String
  | .name label => label
  | .ipv4 address => ipv4Text address
  | .ipv6 pieces => "[" ++ ipv6Text pieces ++ "]"

end Host

namespace Authority

def hasCredentials (a : Authority) : Bool :=
  a.username != "" || a.password != ""

def credentials (a : Authority) : String :=
  if a.hasCredentials then
    a.username ++ (if a.password = "" then "" else ":" ++ a.password) ++ "@"
  else ""

/-- Whether the credentials can be sent apart from the URL: the name stands for text, and so
does the password if there is no name. -/
def isSeparable (a : Authority) : Bool :=
  (Text.Percent.decodeText? a.username).isSome &&
    (a.username != "" ||
      (a.password != "" && (Text.Percent.decodeText? a.password).isSome))

/-- The authority that is left when the credentials are sent apart from it. -/
def withoutCredentials (a : Authority) : Authority :=
  if a.isSeparable then { a with username := "", password := "" } else a

def text (a : Authority) : String :=
  a.credentials ++ a.host.elim "" Host.text ++ a.port.elim "" fun port => ":" ++ toString port

end Authority

/-- The default port of a scheme whose URLs always name a host. -/
def defaultPort? (scheme : String) : Option Nat :=
  if scheme = "http" || scheme = "ws" then some 80
  else if scheme = "https" || scheme = "wss" then some 443
  else if scheme = "ftp" then some 21
  else none

def isSpecialScheme (scheme : String) : Bool :=
  scheme == "file" || (defaultPort? scheme).isSome

def segmentsText (segments : List String) : String :=
  String.join (segments.map ("/" ++ ·))

def UrlPath.text : UrlPath → String
  | .plain text => text
  | .segments list => segmentsText list

namespace Url

def pathText (u : Url) : String :=
  (if u.guarded then "/." else "") ++ u.path.text

/-- The URL as text. -/
def text (u : Url) : String :=
  u.scheme ++ ":" ++ (u.authority.elim "" fun a => "//" ++ a.text) ++ u.pathText ++
    (u.query.elim "" ("?" ++ ·)) ++ u.fragment.elim "" ("#" ++ ·)

/-- The URL as it stands in reports on a request: no credentials, if they can be read. -/
def withoutCredentials (u : Url) : Url :=
  { u with authority := u.authority.map Authority.withoutCredentials }

/-- The URL as it is sent: neither credentials that can be read nor a fragment. -/
def sent (u : Url) : Url :=
  { u.withoutCredentials with fragment := none }

/-- Characters that a host may be written with, but not where a request is sent. -/
def isUnsendableChar (c : Char) : Bool :=
  c == '"' || c == '\x60' || c == '\x7b' || c == '\x7d'

/-- The most bytes that the URL of a request may have. -/
def requestLimit : Nat := 0xFFFE

/-- Whether a request can be sent there. -/
def isSendable (u : Url) : Bool :=
  (u.scheme == "http" || u.scheme == "https") &&
    !((u.authority.bind Authority.host).any fun host => host.text.toList.any isUnsendableChar) &&
    u.withoutCredentials.text.utf8ByteSize ≤ requestLimit

/-- Adds a pair to the query. -/
def appendQuery (u : Url) (pair : String) : Url :=
  { u with query := some (match u.query with
      | none => pair
      | some "" => pair
      | some query => query ++ "&" ++ pair) }

end Url

end PartnerRecords
