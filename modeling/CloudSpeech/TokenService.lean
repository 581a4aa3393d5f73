import CloudSpeech.Http.Conversation
import CloudSpeech.Settings
import CloudSpeech.Text.Blank
import CloudSpeech.Token
/-!
# The token service

The token service gives a token for a subscription key.  The key travels in a header of a request
without a body, and the token is the text of the answer.
-/

namespace CloudSpeech.TokenService

def keyHeader : String := "Ocp-Apim-Subscription-Key"

def event (level : Log.Level) (message : String) (fields : List (String × Log.FieldValue)) :
    Log.Event :=
  ⟨level, .tokenService, message, fields⟩

def request (client : Http.Client) (settings : TokenSettings) (apiKey : String) :
    Except Http.BuildError Http.Request :=
  Http.Request.build client settings.url [.ofText keyHeader apiKey] []

/-- The token that an answer gives. -/
def read (client : Http.Client) (response : Http.Response) :
    Logged (Except TokenError AccessToken) :=
  if !Http.isSuccess response.status then do
    Logged.report (event .warn "Token request rejected" [("status", .number response.status)])
    pure (.error (.rejected response.status ((response.text? client).getD "")))
  else
    match response.text? client with
    | none => pure (.error (.invalidResponse ("Failed to read token: " ++ Http.bodyFailure)))
    | some text =>
        if Text.allBlank text then pure (.error (.invalidResponse "empty token"))
        else do
          Logged.report (event .debug "Access token issued"
            [("token_len", .number text.utf8ByteSize)])
          pure (.ok ⟨text⟩)

/-- The token that comes of a request. -/
def outcome (client : Http.Client) (request : Http.Request) :
    Http.Exchange → Logged (Except TokenError AccessToken)
  | .unreachable =>
      pure (.error (.network ("Cannot connect to token service: " ++ request.failure)))
  | .broken => pure (.error (.network request.failure))
  | .stalled => pure (.error .timeout)
  | .answered response => read client response

def fetch (client : Http.Client) (settings : TokenSettings) (service : Http.Service)
    (apiKey : String) : Http.Conversation (Except TokenError AccessToken) := do
  Http.Conversation.report (event .debug "Requesting access token" [("url", .text settings.url)])
  match request client settings apiKey with
  | .error error => pure (.error (.network error.message))
  | .ok request =>
      let exchange ← Http.Conversation.send service request
      Http.Conversation.ofLogged (outcome client request exchange)

end CloudSpeech.TokenService
