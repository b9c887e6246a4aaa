import PartnerRecords.Text.Digits
import PartnerRecords.Text.Split

/-!
# Network addresses

IPv4 addresses in their many spellings (hexadecimal, octal, with parts left out) and IPv6
addresses with one run of zeros left out or an IPv4 address at the end.
-/

namespace PartnerRecords.Address

open Text (isDigitIn splitOn valueBelow? valueIn)

/-- The radix that the head of a part announces, and the digits that follow. -/
def radixOf : List Char → Nat × List Char
  | '0' :: 'x' :: digits => (16, digits)
  | '0' :: 'X' :: digits => (16, digits)
  | '0' :: second :: digits => (8, second :: digits)
  | digits => (10, digits)

/-- The weight of a byte with so many bytes behind it. -/
def weight (places : Nat) : Nat :=
  Nat.pow 256 places

/-- A part of an IPv4 address; one that fits no address counts as the least such number. -/
def ipv4Part? (part : List Char) : Option Nat :=
  if part.isEmpty then none
  else
    let (radix, digits) := radixOf part
    if digits.all (isDigitIn radix) then
      some ((valueBelow? (weight 4) radix digits).getD (weight 4))
    else none

/-- The parts of a dotted text; one final dot is no part. -/
def dottedParts (cs : List Char) : List (List Char) :=
  let parts := splitOn '.' cs
  if 1 < parts.length ∧ parts.getLast? = some [] then parts.dropLast else parts

/-- A name whose last part is a number is taken for an IPv4 address. -/
def endsInNumber (cs : List Char) : Bool :=
  match (dottedParts cs).getLast? with
  | none => false
  | some last => (!last.isEmpty && last.all Char.isDigit) || (ipv4Part? last).isSome

/-- All parts but the last are bytes; the last fills what remains. -/
def ipv4? (cs : List Char) : Option Nat := do
  let numbers ← (dottedParts cs).mapM ipv4Part?
  let last ← numbers.getLast?
  let bytes := numbers.dropLast
  if 4 < numbers.length || bytes.any (255 < ·) then none
  if weight (4 - bytes.length) ≤ last then none
  return (bytes.zipIdx.map fun (byte, i) => byte * weight (3 - i)).foldr (· + ·) last

def ipv6Piece? (part : List Char) : Option Nat :=
  if part.isEmpty || 4 < part.length || !part.all (isDigitIn 16) then none
  else some (valueIn 16 part)

/-- A decimal byte without needless zeros. -/
def decimalByte? (part : List Char) : Option Nat :=
  let padded := part.length != 1 && part.head? == some '0'
  if part.isEmpty || !part.all Char.isDigit || padded then none
  else valueBelow? 256 10 part

/-- A dotted IPv4 address as two pieces. -/
def embeddedIpv4? (part : List Char) : Option (List Nat) := do
  match ← (splitOn '.' part).mapM decimalByte? with
  | [a, b, c, d] => some [a * 256 + b, c * 256 + d]
  | _ => none

/-- Pieces between colons, the last of which may be a dotted address. -/
def ipv6Pieces? (dotted : Bool) (cs : List Char) : Option (List Nat) := do
  if cs.isEmpty then return []
  let parts := splitOn ':' cs
  let last ← parts.getLast?
  let front ← parts.dropLast.mapM ipv6Piece?
  if dotted && last.contains '.' then
    return front ++ (← embeddedIpv4? last)
  else
    return front ++ [← ipv6Piece? last]

/-- The text before the first double colon and the text after it. -/
def splitDoubleColon : List Char → Option (List Char × List Char)
  | ':' :: ':' :: rest => some ([], rest)
  | c :: rest => (splitDoubleColon rest).map fun (front, back) => (c :: front, back)
  | [] => none

/-- The eight pieces of an IPv6 address. -/
def ipv6? (cs : List Char) : Option (List Nat) := do
  match splitDoubleColon cs with
  | none =>
      let pieces ← ipv6Pieces? true cs
      if pieces.length = 8 then some pieces else none
  | some (front, back) =>
      let front ← ipv6Pieces? false front
      let back ← ipv6Pieces? true back
      if 7 < front.length + back.length then none
      else some (front ++ List.replicate (8 - front.length - back.length) 0 ++ back)

end PartnerRecords.Address
