import PartnerRecords.Json.Record
import PartnerRecords.Text.Blank
import PartnerRecords.Url.Parser

/-!
# Settings

Where the server is, how long to wait for it, and which window and tabs hold business
partners. Valid settings have a URL without slashes at its end, positive numbers and tab
identifiers that are not blank.
-/

namespace PartnerRecords

open Json (Tree Value)

/-- The identifiers of the window of business partners and of its tabs. -/
structure Layout where
  windowId : Nat := 123
  vendorTab : String := "AD_Tab-224"
  customerTab : String := "AD_Tab-223"
deriving DecidableEq, Repr

structure Settings where
  apiUrl : String := "http://localhost:8080/rest/api"
  requestTimeoutSecs : Nat := 30
  connectTimeoutSecs : Nat := 10
  layout : Layout := {}
deriving DecidableEq, Repr

/-- Settings that cannot be used. -/
inductive Invalid
  | notUrl (cause : UrlError)
  | scheme (found : String)
  | requestTimeout
  | connectTimeout
  | windowId
  | vendorTab
  | customerTab
  | variableNotUtf8 (name : String)
  | variableEmpty (name : String)
  | variableNotSeconds (name : String)
  | variableZero (name : String)
  | fileTooLarge
  | fileNotUtf8
deriving DecidableEq, Repr

def Invalid.message : Invalid → String
  | .notUrl cause => "api_url is not a valid url: " ++ cause.message
  | .scheme found => "api_url scheme must be http or https, got " ++ found
  | .requestTimeout => "request_timeout_secs must be greater than zero"
  | .connectTimeout => "connect_timeout_secs must be greater than zero"
  | .windowId => "bpartner_window.window_id must be greater than zero"
  | .vendorTab => "bpartner_window.vendor_tab must not be empty"
  | .customerTab => "bpartner_window.customer_tab must not be empty"
  | .variableNotUtf8 name => name ++ " must be valid UTF-8"
  | .variableEmpty name => name ++ " must not be empty"
  | .variableNotSeconds name => name ++ " must be a positive integer number of seconds"
  | .variableZero name => name ++ " must be greater than zero"
  | .fileTooLarge => "config file exceeds size limit"
  | .fileNotUtf8 => "config file must be utf-8"

/-- Why a file cannot be read; the system may have reasons of its own, with its own words. -/
inductive FileFault
  | missing
  | isDirectory
  | notDirectory
  | nameTooLong
  | nulInName
  | other (text : String)
deriving DecidableEq, Repr

def FileFault.message : FileFault → String
  | .missing => "No such file or directory (os error 2)"
  | .isDirectory => "Is a directory (os error 21)"
  | .notDirectory => "Not a directory (os error 20)"
  | .nameTooLong => "File name too long (os error 36)"
  | .nulInName => "file name contained an unexpected NUL byte"
  | .other text => text

inductive ConfigError
  | file (fault : FileFault)
  | document
  | invalid (reason : Invalid)
deriving DecidableEq, Repr

/-- The text of an error; for a malformed document only its class is told. -/
def ConfigError.message : ConfigError → String
  | .file fault => "config io error: " ++ fault.message
  | .document => "config parse error"
  | .invalid reason => "invalid config: " ++ reason.message

namespace Layout

def validate (l : Layout) : Except Invalid Unit :=
  if l.windowId = 0 then .error .windowId
  else if Text.isBlankText l.vendorTab then .error .vendorTab
  else if Text.isBlankText l.customerTab then .error .customerTab
  else .ok ()

end Layout

/-- A text without the slashes at its end. -/
def trimSlashes (s : String) : String :=
  String.ofList (s.toList.reverse.dropWhile (· == '/')).reverse

namespace Settings

def checkUrl (text : String) : Except Invalid Unit :=
  match Url.parse text with
  | .error cause => .error (.notUrl cause)
  | .ok url =>
      if url.scheme = "http" ∨ url.scheme = "https" then .ok ()
      else .error (.scheme url.scheme)

def check (s : Settings) : Except Invalid Unit := do
  checkUrl s.apiUrl
  if s.requestTimeoutSecs = 0 then throw .requestTimeout
  if s.connectTimeoutSecs = 0 then throw .connectTimeout
  s.layout.validate

def normalize (s : Settings) : Settings :=
  { s with apiUrl := trimSlashes s.apiUrl }

/-- Checks normalized settings. They stay normalized when the check fails. -/
def validate (s : Settings) : Except Invalid Unit × Settings :=
  (s.normalize.check, s.normalize)

/-- The normalized settings, if they are valid. -/
def validated (s : Settings) : Except Invalid Settings :=
  s.normalize.check.map fun _ => s.normalize

end Settings

/-! ## Written form -/

namespace Layout

def fieldNames : List String := ["window_id", "vendor_tab", "customer_tab"]

/-- Identifiers of windows are below this number. -/
def windowIdLimit : Nat := 0x100000000

def ofTree? (t : Tree) : Option Layout := do
  match ← t.fields? fieldNames false with
  | [windowId, vendorTab, customerTab] =>
      return {
        windowId := ← Tree.orDefault ({} : Layout).windowId (Tree.natural? windowIdLimit) windowId
        vendorTab := ← Tree.orDefault ({} : Layout).vendorTab Tree.text? vendorTab
        customerTab := ← Tree.orDefault ({} : Layout).customerTab Tree.text? customerTab }
  | _ => none

def value (l : Layout) : Value :=
  .ofMembers [("window_id", .ofNat l.windowId), ("vendor_tab", .text l.vendorTab),
    ("customer_tab", .text l.customerTab)]

end Layout

namespace Settings

def fieldNames : List String :=
  ["api_url", "request_timeout_secs", "connect_timeout_secs", "bpartner_window"]

def ofTree? (t : Tree) : Option Settings := do
  match ← t.fields? fieldNames false with
  | [apiUrl, requestTimeout, connectTimeout, layout] =>
      let standard : Settings := {}
      return {
        apiUrl := ← Tree.orDefault standard.apiUrl Tree.text? apiUrl
        requestTimeoutSecs :=
          ← Tree.orDefault standard.requestTimeoutSecs (Tree.natural? Text.wordLimit) requestTimeout
        connectTimeoutSecs :=
          ← Tree.orDefault standard.connectTimeoutSecs (Tree.natural? Text.wordLimit) connectTimeout
        layout := ← Tree.orDefault standard.layout Layout.ofTree? layout }
  | _ => none

def value (s : Settings) : Value :=
  .ofMembers [("api_url", .text s.apiUrl),
    ("request_timeout_secs", .ofNat s.requestTimeoutSecs),
    ("connect_timeout_secs", .ofNat s.connectTimeoutSecs), ("bpartner_window", s.layout.value)]

end Settings

end PartnerRecords
