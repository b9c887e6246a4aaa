import PartnerRecords.Text.Percent

/-!
# Tokens of settings files

The text is cut into tokens one character at a time. Unquoted runs stay whole between dots,
since only their place tells keys from numbers and dates. Comments leave nothing behind. Line
ends within quoted text are kept as they are written.
-/

namespace PartnerRecords.Toml

open Text (hexValue?)

inductive Token
  | dot
  | equals
  | comma
  | openBracket
  | closeBracket
  | openBrace
  | closeBrace
  | newline
  | blank (single : Bool)
  | run (text : List Char)
  | quoted (text : String) (lines : Bool)
deriving DecidableEq, Repr

/-- How a quoted text is delimited: by quotation marks, which allow escapes, or apostrophes;
on one line or over several. -/
structure Quoting where
  mark : Char
  lines : Bool
deriving DecidableEq, Repr

def Quoting.escapes (q : Quoting) : Bool :=
  q.mark == '"'

inductive Mode
  | between
  | carriageReturn
  | blanks (single : Bool)
  | comment
  | run (seen : List Char)
  | opening (mark : Char) (count : Nat)
  | firstLine (q : Quoting) (carriageReturn : Bool)
  | quoted (q : Quoting) (chars : List Char)
  | closing (q : Quoting) (chars : List Char) (count : Nat)
  | lineEnd (q : Quoting) (chars : List Char)
  | escape (q : Quoting) (chars : List Char)
  | code (q : Quoting) (chars : List Char) (missing value : Nat)
  | joining (q : Quoting) (chars : List Char) (broken carriageReturn : Bool)
deriving DecidableEq, Repr

structure Lexer where
  tokens : List Token := []
  mode : Mode := .between
deriving DecidableEq, Repr

/-- Controls that may stand nowhere: all but tabs, line ends apart. -/
def isForbidden (c : Char) : Bool :=
  (c.toNat < 0x20 && c != '\t') || c.toNat == 0x7F

def punctuation? : Char → Option Token
  | '.' => some .dot
  | '=' => some .equals
  | ',' => some .comma
  | '[' => some .openBracket
  | ']' => some .closeBracket
  | '\x7b' => some .openBrace
  | '\x7d' => some .closeBrace
  | '\n' => some .newline
  | _ => none

def isBlank (c : Char) : Bool :=
  c == ' ' || c == '\t'

/-- Characters that no unquoted run holds. A quotation mark within a run is part of it. -/
def endsRun (c : Char) : Bool :=
  isBlank c || c == '#' || c == '\r' || (punctuation? c).isSome

def escaped? : Char → Option Char
  | 'b' => some '\x08'
  | 't' => some '\t'
  | 'n' => some '\n'
  | 'f' => some '\x0c'
  | 'r' => some '\r'
  | 'e' => some '\x1b'
  | '"' => some '"'
  | '\\' => some '\\'
  | _ => none

/-- How many hexadecimal digits follow an escape. -/
def codeLength? : Char → Option Nat
  | 'x' => some 2
  | 'u' => some 4
  | 'U' => some 8
  | _ => none

def scalar? (code : Nat) : Option Char :=
  if h : code.isValidChar then some (Char.ofNatAux code h) else none

def quotedToken (q : Quoting) (chars : List Char) : Token :=
  .quoted (String.ofList chars.reverse) q.lines

namespace Lexer

def start (tokens : List Token) (c : Char) : Option Lexer :=
  if isBlank c then some ⟨tokens, .blanks (c == ' ')⟩
  else if c == '#' then some ⟨tokens, .comment⟩
  else if c == '\r' then some ⟨tokens, .carriageReturn⟩
  else if c == '"' || c == '\'' then some ⟨tokens, .opening c 1⟩
  else match punctuation? c with
    | some token => some ⟨token :: tokens, .between⟩
    | none => some ⟨tokens, .run [c]⟩

/-- Reads a character within a quoted text. -/
def inQuoted (tokens : List Token) (q : Quoting) (chars : List Char) (c : Char) : Option Lexer :=
  if c == q.mark then
    if q.lines then some ⟨tokens, .closing q chars 1⟩
    else some ⟨quotedToken q chars :: tokens, .between⟩
  else if c == '\\' && q.escapes then some ⟨tokens, .escape q chars⟩
  else if c == '\n' && q.lines then some ⟨tokens, .quoted q ('\n' :: chars)⟩
  else if c == '\r' && q.lines then some ⟨tokens, .lineEnd q chars⟩
  else if isForbidden c then none
  else some ⟨tokens, .quoted q (c :: chars)⟩

/-- Ends what may be ended where it stands. -/
def flush (l : Lexer) : Option (List Token) :=
  match l.mode with
  | .between => some l.tokens
  | .comment => some l.tokens
  | .blanks single => some (.blank single :: l.tokens)
  | .run seen => some (.run seen.reverse :: l.tokens)
  | .opening mark 2 => some (quotedToken ⟨mark, false⟩ [] :: l.tokens)
  | .closing q chars count =>
      if count < 3 then none
      else some (quotedToken q (List.replicate (count - 3) q.mark ++ chars) :: l.tokens)
  | _ => none

def step (l : Lexer) (c : Char) : Option Lexer :=
  match l.mode with
  | .between => start l.tokens c
  | .carriageReturn => if c == '\n' then some ⟨.newline :: l.tokens, .between⟩ else none
  | .blanks _ =>
      if isBlank c then some ⟨l.tokens, .blanks false⟩ else l.flush.bind (start · c)
  | .comment =>
      if c == '\n' then some ⟨.newline :: l.tokens, .between⟩
      else if c == '\r' then some ⟨l.tokens, .carriageReturn⟩
      else if isForbidden c then none
      else some l
  | .run seen =>
      if endsRun c then l.flush.bind (start · c) else some ⟨l.tokens, .run (c :: seen)⟩
  | .opening mark count =>
      if c == mark then
        if count = 1 then some ⟨l.tokens, .opening mark 2⟩
        else some ⟨l.tokens, .firstLine ⟨mark, true⟩ false⟩
      else if count = 1 then inQuoted l.tokens ⟨mark, false⟩ [] c
      else l.flush.bind (start · c)
  | .firstLine q false =>
      if c == '\n' then some ⟨l.tokens, .quoted q []⟩
      else if c == '\r' then some ⟨l.tokens, .firstLine q true⟩
      else inQuoted l.tokens q [] c
  | .firstLine q true => if c == '\n' then some ⟨l.tokens, .quoted q []⟩ else none
  | .quoted q chars => inQuoted l.tokens q chars c
  | .closing q chars count =>
      if c == q.mark && count < 5 then some ⟨l.tokens, .closing q chars (count + 1)⟩
      else if count < 3 then inQuoted l.tokens q (List.replicate count q.mark ++ chars) c
      else l.flush.bind (start · c)
  | .lineEnd q chars =>
      if c == '\n' then some ⟨l.tokens, .quoted q ('\n' :: '\r' :: chars)⟩ else none
  | .escape q chars =>
      if q.lines && (isBlank c || c == '\n' || c == '\r') then
        some ⟨l.tokens, .joining q chars (c == '\n') (c == '\r')⟩
      else match codeLength? c with
        | some digits => some ⟨l.tokens, .code q chars digits 0⟩
        | none => (escaped? c).map fun c => ⟨l.tokens, .quoted q (c :: chars)⟩
  | .code q chars missing value => do
      let digit ← hexValue? c
      let value := 16 * value + digit
      if missing ≤ 1 then
        let c ← scalar? value
        return ⟨l.tokens, .quoted q (c :: chars)⟩
      else return ⟨l.tokens, .code q chars (missing - 1) value⟩
  | .joining q chars broken carriageReturn =>
      if carriageReturn && c != '\n' then none
      else if c == '\n' then some ⟨l.tokens, .joining q chars true false⟩
      else if c == '\r' then some ⟨l.tokens, .joining q chars broken true⟩
      else if isBlank c then some ⟨l.tokens, .joining q chars broken false⟩
      else if broken then inQuoted l.tokens q chars c
      else none

end Lexer

/-- The tokens of a text in order. A byte order mark at its start is passed over. -/
def tokens? (text : String) : Option (List Token) :=
  let cs := match text.toList with
    | '\ufeff' :: rest => rest
    | cs => cs
  ((cs.foldlM Lexer.step {}).bind Lexer.flush).map List.reverse

end PartnerRecords.Toml
