import PartnerRecords.Text.Digits

/-!
# Percent encoding

A character of an encode set is written as the escapes of its UTF-8 bytes; all other
characters stand for themselves. Decoding turns escapes back into bytes and leaves a
percent sign that begins no escape as it is.
-/

namespace PartnerRecords.Text.Percent

def upperHex (digit : Nat) : Char :=
  if digit < 10 then Char.ofNat ('0'.toNat + digit) else Char.ofNat ('A'.toNat + (digit - 10))

def escape (byte : UInt8) : List Char :=
  ['%', upperHex (byte.toNat / 16), upperHex (byte.toNat % 16)]

def encodeChar (set : Char → Bool) (c : Char) : List Char :=
  if set c then (String.utf8EncodeChar c).flatMap escape else [c]

def encode (set : Char → Bool) (cs : List Char) : List Char :=
  cs.flatMap (encodeChar set)

/-- The byte of an escape that begins the text, and the text after it. -/
def escaped? : List Char → Option (UInt8 × List Char)
  | '%' :: high :: low :: rest => do
      let high ← hexValue? high
      let low ← hexValue? low
      return (UInt8.ofNat (16 * high + low), rest)
  | _ => none

theorem length_lt_of_escaped? {cs rest : List Char} {byte : UInt8}
    (h : escaped? cs = some (byte, rest)) : rest.length < cs.length := by
  unfold escaped? at h
  split at h
  · simp only [Option.bind_eq_bind, Option.bind_eq_some_iff, Option.pure_def,
      Option.some.injEq, Prod.mk.injEq] at h
    obtain ⟨_, _, _, _, _, rfl⟩ := h
    simp only [List.length_cons]
    omega
  · contradiction

/-- The bytes that a text stands for. -/
def decode (cs : List Char) : List UInt8 :=
  match _h : escaped? cs with
  | some (byte, rest) => byte :: decode rest
  | none =>
      match cs with
      | [] => []
      | c :: rest => String.utf8EncodeChar c ++ decode rest
termination_by cs.length
decreasing_by
  · exact length_lt_of_escaped? _h
  · simp

def decodeText? (s : String) : Option String :=
  String.fromUTF8? ⟨(decode s.toList).toArray⟩

/-- Controls and everything outside ASCII. -/
def controlSet (c : Char) : Bool :=
  c.toNat < 0x20 || 0x7E < c.toNat

def querySet (c : Char) : Bool :=
  controlSet c || c == ' ' || c == '"' || c == '#' || c == '<' || c == '>'

def specialQuerySet (c : Char) : Bool :=
  querySet c || c == '\''

def fragmentSet (c : Char) : Bool :=
  controlSet c || c == ' ' || c == '"' || c == '<' || c == '>' || c == '\x60'

def pathSet (c : Char) : Bool :=
  fragmentSet c || c == '#' || c == '?' || c == '\x7b' || c == '\x7d'

def userinfoSet (c : Char) : Bool :=
  pathSet c || c == '/' || c == ':' || c == ';' || c == '=' || c == '@' || c == '[' ||
    c == '\\' || c == ']' || c == '^' || c == '|'

/-- What an added path segment may not hold. -/
def segmentSet (c : Char) : Bool :=
  pathSet c || c == '/' || c == '%'

def specialSegmentSet (c : Char) : Bool :=
  segmentSet c || c == '\\'

end PartnerRecords.Text.Percent
