/-!
# Access tokens

The token service gives a token for a subscription key.  The token is a secret of the invocation:
it is sent with the request for speech and never shown.
-/

namespace CloudSpeech

structure AccessToken where
  text : String
  deriving DecidableEq

namespace AccessToken

/-- The value of the header that carries the token. -/
def bearer (token : AccessToken) : String := "Bearer " ++ token.text

/-- What may be shown of a token: how many octets it has. -/
def redacted (token : AccessToken) : String :=
  "AccessToken(len=" ++ toString token.text.utf8ByteSize ++ ")"

end AccessToken

inductive TokenError where
  | network (reason : String)
  | timeout
  /-- The service refused, with a status and a text. -/
  | rejected (status : Nat) (body : String)
  | invalidResponse (reason : String)
  deriving DecidableEq, Repr

def TokenError.message : TokenError → String
  | network reason => "Network error: " ++ reason
  | timeout => "Request timeout"
  | rejected status body => "Token request rejected: HTTP " ++ toString status ++ ": " ++ body
  | invalidResponse reason => "Invalid response: " ++ reason

end CloudSpeech
