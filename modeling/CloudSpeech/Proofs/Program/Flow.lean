import CloudSpeech.Proofs.Audio.Performance
import CloudSpeech.Proofs.Http.Services
import CloudSpeech.Proofs.Program.Gates
import CloudSpeech.Proofs.Speak.Course

/-!
# From the command line to the device

An invocation that passes the gates and finds its settings sends two requests at most, and
gives sound to one stream at most. `Flow` lists the ways in which that goes, as rules about
what the services and the device do: what is asked for, what is sent, what the device is
given, and the exit code. Each datum is followed through all layers: the words of the command
line and the settings up to the requests, the first answer into the second request, and the
second answer to the device.
-/

namespace CloudSpeech.Program

open CommandLine (Arguments Word)
open TokenService (Grants)
open SpeechService (Delivers)
open Voice (catalog)

variable {client : Http.Client} {settings : Settings} {world : World} {apiKey document : String}
  {calls : List Call} {sent : List Http.Request} {use : Audio.DeviceUse} {code : Int}

/-- A request asks the token service of the settings for a token. -/
def AsksForToken (client : Http.Client) (settings : Settings) (apiKey : String)
    (request : Http.Request) : Prop :=
  request.Posts client settings.token.url [.ofText "Ocp-Apim-Subscription-Key" apiKey] []

/-- A request asks the speech service of the settings for the sound of a document, with the
text of a token. -/
def AsksForSpeech (client : Http.Client) (settings : Settings) (text document : String)
    (request : Http.Request) : Prop :=
  request.Posts client settings.synthesis.url
    [.ofText "Content-Type" "application/ssml+xml",
      .ofText "X-Microsoft-OutputFormat" settings.synthesis.outputFormat,
      .ofText "Authorization" ("Bearer " ++ text),
      .ofText "X-Search-AppId" settings.synthesis.appId,
      .ofText "X-Search-ClientID" settings.synthesis.clientId,
      .ofText "User-Agent" settings.synthesis.userAgent]
    (Octets.ofText document)

theorem asksForToken_iff (request : Http.Request) :
    TokenService.request client settings.token apiKey = .ok request ↔
      AsksForToken client settings apiKey request :=
  Http.Request.build_eq_ok_iff

theorem asksForSpeech_iff (text : String) (request : Http.Request) :
    SpeechService.request client settings.synthesis ⟨text⟩ document = .ok request ↔
      AsksForSpeech client settings text document request :=
  Http.Request.build_eq_ok_iff

/-- The ways in which a message goes through the program: the calls, the requests that are sent,
what is done to the device, and the exit code. -/
inductive Flow (settings : Settings) (world : World) (apiKey document : String) :
    List Call → List Http.Request → Audio.DeviceUse → Int → Prop
  | unsent (hunsent : ∀ request, ¬ AsksForToken world.client settings apiKey request) :
      Flow settings world apiKey document [.fetchToken apiKey] [] {} exitFailure
  | withoutToken {first : Http.Request} (hfirst : AsksForToken world.client settings apiKey first)
      (hrefused : ∀ text, ¬ Grants world.client (world.tokenService first) text) :
      Flow settings world apiKey document [.fetchToken apiKey] [first] {} exitFailure
  | unasked {first : Http.Request} {text : String}
      (hfirst : AsksForToken world.client settings apiKey first)
      (hgranted : Grants world.client (world.tokenService first) text)
      (hunsent : ∀ request, ¬ AsksForSpeech world.client settings text document request) :
      Flow settings world apiKey document
        [.fetchToken apiKey, .synthesize ⟨text⟩ document] [first] {} exitFailure
  | withoutSpeech {first second : Http.Request} {text : String}
      (hfirst : AsksForToken world.client settings apiKey first)
      (hgranted : Grants world.client (world.tokenService first) text)
      (hsecond : AsksForSpeech world.client settings text document second)
      (hrefused : ∀ audio, ¬ Delivers (world.speechService second) audio) :
      Flow settings world apiKey document
        [.fetchToken apiKey, .synthesize ⟨text⟩ document] [first, second] {} exitFailure
  | unheard {first second : Http.Request} {text : String} {audio : Octets}
      (hfirst : AsksForToken world.client settings apiKey first)
      (hgranted : Grants world.client (world.tokenService first) text)
      (hsecond : AsksForSpeech world.client settings text document second)
      (hdelivered : Delivers (world.speechService second) audio)
      (hunheard : ¬ ∃ device, world.device = some device ∧ device.Hears audio) :
      Flow settings world apiKey document
        [.fetchToken apiKey, .synthesize ⟨text⟩ document, .play .speech audio] [first, second]
        ((player settings).play world.device .speech audio).value.use exitFailure
  | heard {first second : Http.Request} {text : String} {audio : Octets}
      (hfirst : AsksForToken world.client settings apiKey first)
      (hgranted : Grants world.client (world.tokenService first) text)
      (hsecond : AsksForSpeech world.client settings text document second)
      (hdelivered : Delivers (world.speechService second) audio)
      (hheard : ∃ device, world.device = some device ∧ device.Hears audio) :
      Flow settings world apiKey document
        [.fetchToken apiKey, .synthesize ⟨text⟩ document, .play .speech audio] [first, second]
        ((player settings).play world.device .speech audio).value.use exitSuccess

/-! ## Every session is a flow -/

theorem value_fetchToken_backend_iff (token : AccessToken) :
    ((backend world settings).fetchToken apiKey).value = .ok token ↔
      ∃ request, AsksForToken world.client settings apiKey request ∧
        Grants world.client (world.tokenService request) token.text :=
  TokenService.value_fetch_eq_ok_iff ..

namespace Flow

theorem code_eq_success_iff (h : Flow settings world apiKey document calls sent use code) :
    code = exitSuccess ↔
      ∃ first second text audio device, sent = [first, second] ∧
        Grants world.client (world.tokenService first) text ∧
        Delivers (world.speechService second) audio ∧
        world.device = some device ∧ device.Hears audio := by
  cases h with
  | unsent _ | withoutToken _ _ | unasked _ _ _ => exact iff_of_false (by decide) (by simp)
  | withoutSpeech _ _ _ hrefused =>
      refine iff_of_false (by decide) ?_
      rintro ⟨_, _, _, audio, _, hsent, _, hdelivered, _⟩
      cases hsent
      exact hrefused audio hdelivered
  | unheard _ _ _ hdelivered hunheard =>
      refine iff_of_false (by decide) ?_
      rintro ⟨_, _, _, audio, device, hsent, _, hother, hdevice, hhears⟩
      cases hsent
      cases hdelivered.unique hother
      exact hunheard ⟨device, hdevice, hhears⟩
  | heard _ hgranted _ hdelivered hheard =>
      obtain ⟨device, hdevice, hhears⟩ := hheard
      exact iff_of_true rfl ⟨_, _, _, _, device, rfl, hgranted, hdelivered, hdevice, hhears⟩

theorem code_eq_or (h : Flow settings world apiKey document calls sent use code) :
    code = exitSuccess ∨ code = exitFailure := by
  cases h with
  | unsent _ | withoutToken _ _ | unasked _ _ _ | withoutSpeech _ _ _ _ | unheard _ _ _ _ _ =>
      exact .inr rfl
  | heard _ _ _ _ _ => exact .inl rfl

end Flow

/-! ## The whole invocation -/

/-- An outcome with what is printed and logged about the settings before. -/
def Outcome.under (outcome : Outcome) (environment : List (String × String))
    (settings : Settings) : Outcome :=
  { outcome with
    stderr := filterWarnings environment settings ++ outcome.stderr
    events := settingsEvents settings ++ outcome.events
    madeFor := some settings }

end CloudSpeech.Program
