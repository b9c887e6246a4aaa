import PartnerRecords.Config.File

/-!
# The environment

Three variables override settings: the path of the file, the URL of the server and the timeout
of requests. A variable that is set has to be UTF-8 and not blank; blanks at its ends do not
count. The variables are looked at before any file, and only what comes out at last is
checked.
-/

namespace PartnerRecords

/-- The bytes of each variable that is set. -/
abbrev Environment := String → Option ByteArray

/-- The bytes of each file, or why it cannot be read. -/
abbrev FileSystem := String → Except FileFault ByteArray

namespace Environment

def configPath : String := "ERP_FIXTURES_CONFIG"
def apiUrl : String := "ERP_FIXTURES_API_URL"
def timeoutSeconds : String := "ERP_FIXTURES_TIMEOUT_SEC"

/-- The text of a variable. -/
def text (env : Environment) (name : String) : Except Invalid (Option String) :=
  match env name with
  | none => .ok none
  | some bytes => match String.fromUTF8? bytes with
    | none => .error (.variableNotUtf8 name)
    | some s => .ok (some s)

/-- The text of a variable without blanks at its ends. -/
def filled (env : Environment) (name : String) : Except Invalid (Option String) := do
  match ← env.text name with
  | none => return none
  | some s => if Text.isBlankText s then throw (.variableEmpty name) else return some (Text.trim s)

/-- An unsigned 64-bit number in decimal digits, after a plus or without. -/
def word? (s : String) : Option Nat :=
  let digits := match s.toList with
    | '+' :: rest => rest
    | cs => cs
  if digits.isEmpty || !digits.all Char.isDigit then none
  else Text.valueBelow? Text.wordLimit 10 digits

def seconds (name s : String) : Except Invalid Nat :=
  match word? s with
  | none => .error (.variableNotSeconds name)
  | some 0 => .error (.variableZero name)
  | some value => .ok value

end Environment

structure Overrides where
  path : Option String := none
  apiUrl : Option String := none
  requestTimeoutSecs : Option Nat := none
deriving DecidableEq, Repr

namespace Overrides

def read (env : Environment) : Except Invalid Overrides := do
  let path ← env.filled Environment.configPath
  let apiUrl ← env.filled Environment.apiUrl
  match ← env.filled Environment.timeoutSeconds with
  | none => return { path, apiUrl }
  | some s =>
      let timeout ← Environment.seconds Environment.timeoutSeconds s
      return { path, apiUrl, requestTimeoutSecs := some timeout }

def apply (o : Overrides) (s : Settings) : Settings :=
  { s with
    apiUrl := o.apiUrl.getD s.apiUrl
    requestTimeoutSecs := o.requestTimeoutSecs.getD s.requestTimeoutSecs }

end Overrides

namespace Settings

/-- The settings of a file, or the standard ones without a file. -/
def ofFile (files : FileSystem) : Option String → Except ConfigError Settings
  | none => .ok {}
  | some path => do ofBytes (← (files path).mapError .file)

/-- Loads settings from the given file or the one that the environment names. -/
def load (files : FileSystem) (env : Environment) (path : Option String) :
    Except ConfigError Settings := do
  let overrides ← (Overrides.read env).mapError .invalid
  let settings ← ofFile files (path <|> overrides.path)
  (overrides.apply settings).validated.mapError .invalid

end Settings

end PartnerRecords
