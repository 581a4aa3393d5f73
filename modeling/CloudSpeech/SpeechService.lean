import CloudSpeech.Http.Conversation
import CloudSpeech.Settings
import CloudSpeech.Speech
import CloudSpeech.Token
/-!
# The speech service

The speech service synthesizes a document.  The document is the body of a request that carries the
token and tells the format wanted; the sound is the body of the answer.
-/

namespace CloudSpeech.SpeechService

def outputFormatHeader : String := "X-Microsoft-OutputFormat"

def appIdHeader : String := "X-Search-AppId"

def clientIdHeader : String := "X-Search-ClientID"

/-- The header of an answer that names the exchange. -/
def requestIdHeader : String := "X-RequestId"

/-- The kind of the documents that are sent. -/
def contentType : String := "application/ssml+xml"

def event (level : Log.Level) (message : String) (fields : List (String × Log.FieldValue)) :
    Log.Event :=
  ⟨level, .synthesisService, message, fields⟩

def headers (settings : SynthesisSettings) (token : AccessToken) : List Http.Header := [
  .ofText "Content-Type" contentType,
  .ofText outputFormatHeader settings.outputFormat,
  .ofText Http.Request.authorization token.bearer,
  .ofText appIdHeader settings.appId,
  .ofText clientIdHeader settings.clientId,
  .ofText "User-Agent" settings.userAgent]

def request (client : Http.Client) (settings : SynthesisSettings) (token : AccessToken)
    (document : String) : Except Http.BuildError Http.Request :=
  Http.Request.build client settings.url (headers settings token) (Octets.ofText document)

/-- The speech that an answer gives.  An answer that does not name the exchange gets a fresh
name. -/
def read (client : Http.Client) (freshId : String) (response : Http.Response) :
    Logged (Except SynthesisError Speech) :=
  if !Http.isSuccess response.status then
    pure (.error (.service
      ("HTTP " ++ Http.statusLine response.status ++ ": " ++ (response.text? client).getD "")))
  else
    match response.octets? with
    | none => pure (.error (.invalidResponse ("Failed to read audio: " ++ Http.bodyFailure)))
    | some audio => do
        let requestId := (Http.Header.firstText? response.headers requestIdHeader).getD freshId
        Logged.report (event .info "TTS synthesis completed"
          [("request_id", .text requestId), ("audio_size", .number audio.length)])
        pure (.ok ⟨requestId, audio⟩)

/-- The speech that comes of a request. -/
def outcome (client : Http.Client) (freshId : String) (request : Http.Request) :
    Http.Exchange → Logged (Except SynthesisError Speech)
  | .unreachable =>
      pure (.error (.network ("Cannot connect to TTS service: " ++ request.failure)))
  | .broken => pure (.error (.network request.failure))
  | .stalled => pure (.error .timeout)
  | .answered response => read client freshId response

def synthesize (client : Http.Client) (settings : SynthesisSettings) (service : Http.Service)
    (freshId : String) (token : AccessToken) (document : String) :
    Http.Conversation (Except SynthesisError Speech) := do
  Http.Conversation.report (event .debug "Sending synthesis request" [
    ("url", .text settings.url),
    ("ssml_len", .number document.utf8ByteSize),
    ("output_format", .text settings.outputFormat)])
  match request client settings token document with
  | .error error => pure (.error (.network error.message))
  | .ok request =>
      let exchange ← Http.Conversation.send service request
      Http.Conversation.ofLogged (outcome client freshId request exchange)

end CloudSpeech.SpeechService
