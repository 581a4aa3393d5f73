import CloudSpeech.Http.Client
import CloudSpeech.Http.Header
import CloudSpeech.Text.Base64
/-!
# Requests

A request asks the service at a URL to take a body.  It is built as a whole or not at all: a URL
that nothing can be sent to, or a header whose value may not be sent, leaves no request.
-/

namespace CloudSpeech.Http

/-- A request with the method `POST`. -/
structure Request where
  url : Url
  headers : List Header
  body : Octets
  deriving DecidableEq, Repr

inductive BuildError where
  /-- The address is no URL. -/
  | malformedUrl
  | invalidHeader
  /-- Requests cannot be sent to the URL. -/
  | unusableUrl (url : String)
  deriving DecidableEq, Repr

def BuildError.message : BuildError → String
  | malformedUrl => "builder error"
  | invalidHeader => "builder error"
  | unusableUrl url => "builder error for url (" ++ url ++ ")"

namespace Request

def authorization : String := "Authorization"

/-- The header for a user that the URL names. -/
def userHeader (user : Url.User) : Header :=
  .ofText authorization ("Basic " ++ String.ofList
    (Text.Base64.encode (Octets.ofText (user.name ++ ":" ++ user.password.getD ""))))

/-- The most octets that the URL of a request may have. -/
def longestUrl : Nat := 65534

def isHostChar (c : Char) : Bool := !(['"', '\x60', '\x7b', '\x7d'].contains c)

def isUsable (url : Url) : Bool :=
  Url.isWeb url.scheme && (url.authority.all fun authority => authority.host.text.all isHostChar)
    && url.text.utf8ByteSize ≤ longestUrl

/-- Builds a request.  A user in the URL becomes a header of its own. -/
def build (client : Client) (address : String) (headers : List Header) (body : Octets) :
    Except BuildError Request :=
  match client.readUrl address with
  | none => .error .malformedUrl
  | some url =>
      if !url.hasHost then .error (.unusableUrl url.text)
      else
        let (url, user) := url.takeUser
        let headers := (user.map userHeader).toList ++ headers
        if !headers.all Header.isValid then .error .invalidHeader
        else if !isUsable url then .error (.unusableUrl url.text)
        else .ok { url, headers, body }

end Request

end CloudSpeech.Http
