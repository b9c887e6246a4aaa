import PartnerRecords.Json.Value

/-!
# Text of values

Values are written without spaces in printable ASCII: other characters are escaped by their
UTF-16 code units.
-/

namespace PartnerRecords.Json

def hexDigit (n : Nat) : Char :=
  Nat.digitChar n

def escapeUnit (unit : Nat) : List Char :=
  ['\\', 'u', hexDigit (unit / 0x1000 % 16), hexDigit (unit / 0x100 % 16),
    hexDigit (unit / 0x10 % 16), hexDigit (unit % 16)]

def escapeChar (c : Char) : List Char :=
  let code := c.toNat
  if c == '"' then ['\\', '"']
  else if c == '\\' then ['\\', '\\']
  else if 0x20 ≤ code && code < 0x7F then [c]
  else if code < 0x10000 then escapeUnit code
  else
    escapeUnit (0xD800 + (code - 0x10000) / 0x400) ++
      escapeUnit (0xDC00 + (code - 0x10000) % 0x400)

def quote (s : String) : String :=
  String.ofList ('"' :: s.toList.flatMap escapeChar ++ ['"'])

/-- Parts with commas between them and a character at each end. -/
def enclose (first last : Char) (parts : List String) : String :=
  String.singleton first ++ String.intercalate "," parts ++ String.singleton last

namespace Value

mutual

def render : Value → String
  | .null => "null"
  | .boolean true => "true"
  | .boolean false => "false"
  | .number value => value.text
  | .text value => quote value
  | .list items => enclose '[' ']' (itemTextsAfter [] items)
  | .object members => enclose '\x7b' '\x7d' (memberTextsAfter [] members)

/-- The texts of items, after others whose last comes first. -/
def itemTextsAfter (done : List String) : List Value → List String
  | [] => done.reverse
  | item :: rest => itemTextsAfter (render item :: done) rest

def memberTextsAfter (done : List String) : List (String × Value) → List String
  | [] => done.reverse
  | (name, value) :: rest => memberTextsAfter ((quote name ++ ":" ++ render value) :: done) rest

end

theorem itemTextsAfter_eq (done : List String) (items : List Value) :
    itemTextsAfter done items = done.reverse ++ items.map render := by
  induction items generalizing done with
  | nil => simp [itemTextsAfter]
  | cons item rest ih => simp [itemTextsAfter, ih]

theorem memberTextsAfter_eq (done : List String) (members : List (String × Value)) :
    memberTextsAfter done members =
      done.reverse ++ members.map fun member => quote member.1 ++ ":" ++ member.2.render := by
  induction members generalizing done with
  | nil => simp [memberTextsAfter]
  | cons member rest ih =>
      obtain ⟨name, value⟩ := member
      simp [memberTextsAfter, ih]

end Value

end PartnerRecords.Json
