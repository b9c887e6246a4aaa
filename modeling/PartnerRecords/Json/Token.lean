import PartnerRecords.Json.Number

/-!
# Tokens of the data format

Text is cut into tokens one character at a time. A number beyond the finite ones, and a
text with an unpaired surrogate escape, are tokens without a value: whoever needs the value
refuses them, and whoever skips it does not notice.
-/

namespace PartnerRecords.Json

open Text (hexValue?)

inductive Token
  | openObject
  | closeObject
  | openList
  | closeList
  | comma
  | colon
  | null
  | boolean (value : Bool)
  | number (value : Option Number)
  | text (value : Option String)
deriving DecidableEq, Repr

def isHigh (unit : Nat) : Bool :=
  0xD800 ≤ unit && unit < 0xDC00

def isLow (unit : Nat) : Bool :=
  0xDC00 ≤ unit && unit < 0xE000

def joinSurrogates (high low : Nat) : Char :=
  Char.ofNat (0x10000 + (high - 0xD800) * 0x400 + (low - 0xDC00))

/-- Quoted text read so far, last character first, with a high surrogate that still waits for
its low one, and whether every surrogate before found its partner. -/
structure Quoted where
  chars : List Char := []
  high : Option Nat := none
  paired : Bool := true
deriving DecidableEq, Repr

namespace Quoted

def push (q : Quoted) (c : Char) : Quoted :=
  ⟨c :: q.chars, none, q.paired && q.high.isNone⟩

/-- Adds an escaped code unit. -/
def pushUnit (q : Quoted) (unit : Nat) : Quoted :=
  match q.high with
  | some high =>
      if isLow unit then ⟨joinSurrogates high unit :: q.chars, none, q.paired⟩
      else ⟨q.chars, none, false⟩
  | none =>
      if isHigh unit then ⟨q.chars, some unit, q.paired⟩
      else if isLow unit then ⟨q.chars, none, false⟩
      else ⟨Char.ofNat unit :: q.chars, none, q.paired⟩

def text? (q : Quoted) : Option String :=
  if q.paired && q.high.isNone then some (String.ofList q.chars.reverse) else none

end Quoted

/-- What the characters read last belong to. -/
inductive Mode
  | between
  | word (seen : List Char)
  | number (seen : List Char)
  | quoted (text : Quoted)
  | escape (text : Quoted)
  | unit (text : Quoted) (missing value : Nat)
deriving DecidableEq, Repr

structure Lexer where
  tokens : List Token := []
  mode : Mode := .between
deriving DecidableEq, Repr

def isSpace (c : Char) : Bool :=
  c == ' ' || c == '\t' || c == '\n' || c == '\r'

def isNumberChar (c : Char) : Bool :=
  c.isDigit || c == '-' || c == '+' || c == '.' || c == 'e' || c == 'E'

def escaped? : Char → Option Char
  | '"' => some '"'
  | '\\' => some '\\'
  | '/' => some '/'
  | 'b' => some '\x08'
  | 'f' => some '\x0c'
  | 'n' => some '\n'
  | 'r' => some '\r'
  | 't' => some '\t'
  | _ => none

def punctuation? : Char → Option Token
  | '\x7b' => some .openObject
  | '\x7d' => some .closeObject
  | '[' => some .openList
  | ']' => some .closeList
  | ',' => some .comma
  | ':' => some .colon
  | _ => none

def wordToken? (letters : List Char) : Option Token :=
  if letters = ['n', 'u', 'l', 'l'] then some .null
  else if letters = ['t', 'r', 'u', 'e'] then some (.boolean true)
  else if letters = ['f', 'a', 'l', 's', 'e'] then some (.boolean false)
  else none

def numberToken? (chars : List Char) : Option Token :=
  (Literal.ofChars? chars).map fun literal => .number literal.number?

namespace Lexer

/-- Ends the run of a word or a number; an open text cannot be ended. -/
def flush (l : Lexer) : Option (List Token) :=
  match l.mode with
  | .between => some l.tokens
  | .word seen => (wordToken? seen.reverse).map (· :: l.tokens)
  | .number seen => (numberToken? seen.reverse).map (· :: l.tokens)
  | _ => none

/-- Reads a character that begins something. -/
def start (tokens : List Token) (c : Char) : Option Lexer :=
  if isSpace c then some ⟨tokens, .between⟩
  else if c == '"' then some ⟨tokens, .quoted {}⟩
  else if c.isDigit || c == '-' then some ⟨tokens, .number [c]⟩
  else if c.isAlpha then some ⟨tokens, .word [c]⟩
  else (punctuation? c).map fun token => ⟨token :: tokens, .between⟩

def step (l : Lexer) (c : Char) : Option Lexer :=
  match l.mode with
  | .between => start l.tokens c
  | .word seen =>
      if c.isAlpha then some ⟨l.tokens, .word (c :: seen)⟩
      else l.flush.bind (start · c)
  | .number seen =>
      if isNumberChar c then some ⟨l.tokens, .number (c :: seen)⟩
      else l.flush.bind (start · c)
  | .quoted text =>
      if c == '"' then some ⟨.text text.text? :: l.tokens, .between⟩
      else if c == '\\' then some ⟨l.tokens, .escape text⟩
      else if c.toNat < 0x20 then none
      else some ⟨l.tokens, .quoted (text.push c)⟩
  | .escape text =>
      if c == 'u' then some ⟨l.tokens, .unit text 4 0⟩
      else (escaped? c).map fun c => ⟨l.tokens, .quoted (text.push c)⟩
  | .unit text missing value =>
      (hexValue? c).map fun digit =>
        let value := 16 * value + digit
        if missing ≤ 1 then ⟨l.tokens, .quoted (text.pushUnit value)⟩
        else ⟨l.tokens, .unit text (missing - 1) value⟩

end Lexer

/-- The tokens of a text in order. -/
def tokens? (cs : List Char) : Option (List Token) :=
  ((cs.foldlM Lexer.step {}).bind Lexer.flush).map List.reverse

end PartnerRecords.Json
