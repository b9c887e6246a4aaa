import PartnerRecords.Config.Settings
import PartnerRecords.Screen.Call
import PartnerRecords.Url.Basic

/-!
# Failures

Why a partner could not be created or completed. Each cause has one text.
-/

namespace PartnerRecords

/-- What goes wrong on the way to the server: an address that is none, one that no request can be
sent to, a request that does not leave, one that is not answered, and an answer that breaks
off. -/
inductive HttpFault
  | badUrl (cause : UrlError)
  | cannotBeBase (url : Url)
  | unsendable (url : Url)
  | unsent (url : Url)
  | unanswered (url : Url)
  | brokenOff (url : Url)
deriving DecidableEq, Repr

def HttpFault.message : HttpFault → String
  | .badUrl cause => cause.message
  | .cannotBeBase url => "url cannot be a base: " ++ url.text
  | .unsendable url => "builder error for url (" ++ url.text ++ ")"
  | .unsent url => "error sending request for url (" ++ url.text ++ ")"
  | .unanswered url => "error sending request for url (" ++ url.text ++ ")"
  | .brokenOff url => "error decoding response body for url (" ++ url.text ++ ")"

/-- Whether a request fails before there is anything to wait for. -/
def HttpFault.isImmediate : HttpFault → Bool
  | .badUrl _ => true
  | .cannotBeBase _ => true
  | .unsendable _ => true
  | .unsent _ => true
  | _ => false

inductive DecodeFault
  | notJson
  | dropdown (field : String)
deriving DecidableEq, Repr

def DecodeFault.message : DecodeFault → String
  | .notJson => "body is not JSON"
  | .dropdown field => "dropdown " ++ field

inductive Failure
  | config (cause : ConfigError)
  | http (fault : HttpFault)
  | status (code : Nat) (url : Url)
  | decode (fault : DecodeFault)
  | missingField (name : String)
  | notFound (name : String)
  | screen (cause : ScreenError)
  | addressNotRendered (summary city : String)
  | gridMismatch (tab : DetailTab) (actual expected : Nat)
  | alreadyApplied (record : RecordId)
  | notPersisted
deriving DecidableEq, Repr

def Failure.isImmediate : Failure → Bool
  | .http fault => fault.isImmediate
  | _ => false

def Failure.message : Failure → String
  | .config cause => "fixture config failure: " ++ cause.message
  | .http fault => "http failure: " ++ fault.message
  | .status code url => "http status " ++ toString code ++ " for " ++ url.text
  | .decode fault => "response decode failure: " ++ fault.message
  | .missingField name => "response is missing field " ++ name
  | .notFound name => "no reference record named '" ++ name ++ "'"
  | .screen cause => cause.message
  | .addressNotRendered summary city =>
      "address summary '" ++ summary ++ "' does not contain city '" ++ city ++ "'"
  | .gridMismatch tab actual expected =>
      tab.id ++ " grid shows " ++ toString actual ++ " rows, expected " ++ toString expected
  | .alreadyApplied record => "business partner already applied as record " ++ record.text
  | .notPersisted => "business partner has not been persisted yet"

end PartnerRecords
