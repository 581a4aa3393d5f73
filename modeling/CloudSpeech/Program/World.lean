import CloudSpeech.Audio.Playback
import CloudSpeech.Speak
import CloudSpeech.SpeechService
import CloudSpeech.TokenService
/-!
# What the program reaches

Messages are spoken through the two services that the settings name and the default output device.
Each call to a service is a conversation with it, which keeps what the service is handed, and each
call for playback a performance, which keeps what is done to the device.
-/

namespace CloudSpeech.Program

structure World where
  client : Http.Client
  tokenService : Http.Service
  speechService : Http.Service
  /-- The default output device, if there is one. -/
  device : Option Audio.Device
  /-- The name of an exchange that the speech service does not name. -/
  freshId : String

def player (settings : Settings) : Audio.Player :=
  ⟨settings.playback.graceMs, settings.playback.tailMs⟩

def fetchToken (world : World) (settings : Settings) (apiKey : String) :
    Http.Conversation (Except TokenError AccessToken) :=
  TokenService.fetch world.client settings.token world.tokenService apiKey

def synthesize (world : World) (settings : Settings) (token : AccessToken) (document : String) :
    Http.Conversation (Except SynthesisError Speech) :=
  SpeechService.synthesize world.client settings.synthesis world.speechService world.freshId token
    document

/-- The services and the device, used as the settings say. -/
def backend (world : World) (settings : Settings) : Backend where
  fetchToken apiKey := (fetchToken world settings apiKey).logged
  synthesize token document := (synthesize world settings token document).logged
  play format audio :=
    ((player settings).play world.device format audio).map fun performance =>
      .returned performance.result

/-- What the services are handed while a call is answered. -/
def sentBy (world : World) (settings : Settings) : Call → List Http.Request
  | .fetchToken apiKey => (fetchToken world settings apiKey).sent
  | .synthesize token document => (synthesize world settings token document).sent
  | .play _ _ => []

/-- What the services are handed while calls are answered, one after the other. -/
def requests (world : World) (settings : Settings) (calls : List Call) : List Http.Request :=
  calls.flatMap (sentBy world settings)

/-- What calls do to the output device. -/
def deviceUse (world : World) (settings : Settings) (calls : List Call) : Audio.DeviceUse :=
  (calls.findSome? fun call =>
    match call with
    | .play format audio =>
        some ((player settings).play world.device format audio).value.use
    | _ => none).getD {}

end CloudSpeech.Program
