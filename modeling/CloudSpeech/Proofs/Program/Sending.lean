import CloudSpeech.Proofs.Http.Headers
import CloudSpeech.Proofs.Program.Flow

/-!
# Requests are sent whole or not at all

The values of headers come from the command line, from the token service and from the settings.
One of them that holds a control character keeps its request from being sent. All other requests
are sent with the headers that are meant, whose names do not depend on any value.
-/

namespace CloudSpeech

namespace Program

open Http (Request)
open Http.Header (Garbles)

variable {world : World} {settings : Settings} {call : Call} {request : Request}
  {apiKey document : String} {token : AccessToken}

/-- A call hands one request to its service, and its answer is read off the exchange of that
request. -/
inductive Sends (world : World) (settings : Settings) : Call → Request → Prop
  | fetchToken {apiKey : String} {request : Request}
      (hsent : (fetchToken world settings apiKey).sent = [request])
      (hanswer : (fetchToken world settings apiKey).value =
        (TokenService.outcome world.client request (world.tokenService request)).value) :
      Sends world settings (.fetchToken apiKey) request
  | synthesize {token : AccessToken} {document : String} {request : Request}
      (hsent : (synthesize world settings token document).sent = [request])
      (hanswer : (synthesize world settings token document).value =
        (SpeechService.outcome world.client world.freshId request
          (world.speechService request)).value) :
      Sends world settings (.synthesize token document) request

/-- A call hands nothing to its service, and its answer is an error of the network. -/
inductive Withholds (world : World) (settings : Settings) : Call → Prop
  | fetchToken {apiKey : String} (hsent : (fetchToken world settings apiKey).sent = [])
      (hanswer : (fetchToken world settings apiKey).value = .error (.network "builder error")) :
      Withholds world settings (.fetchToken apiKey)
  | synthesize {token : AccessToken} {document : String}
      (hsent : (synthesize world settings token document).sent = [])
      (hanswer : (synthesize world settings token document).value =
        .error (.network "builder error")) :
      Withholds world settings (.synthesize token document)

theorem Sends.not_withholds (h : Sends world settings call request) :
    ¬ Withholds world settings call := by
  intro hwithholds
  cases h with
  | fetchToken hsent _ | synthesize hsent _ =>
      cases hwithholds with
      | _ hnothing _ => cases hsent.symm.trans hnothing

theorem sends_or_withholds {p : Prop} (hsends : ¬ p → Sends world settings call request)
    (hwithholds : p → Withholds world settings call) :
    (Sends world settings call request ↔ ¬ p) ∧ (Withholds world settings call ↔ p) := by
  refine ⟨⟨fun hsent hp => hsent.not_withholds (hwithholds hp), hsends⟩,
    fun hwithheld => ?_, hwithholds⟩
  exact Classical.byContradiction fun hp => (hsends hp).not_withholds hwithheld

theorem sends_synthesize
    (hbuilt : SpeechService.request world.client settings.synthesis token document =
      .ok request) :
    Sends world settings (.synthesize token document) request := by
  obtain ⟨hsent, hanswer⟩ :=
    SpeechService.synthesize_of_ok world.freshId hbuilt world.speechService
  exact .synthesize hsent hanswer

theorem withholds_synthesize
    (hrefused : SpeechService.request world.client settings.synthesis token document =
      .error .invalidHeader) :
    Withholds world settings (.synthesize token document) := by
  obtain ⟨hsent, hanswer⟩ :=
    SpeechService.synthesize_of_error world.freshId hrefused world.speechService
  exact .synthesize hsent hanswer

theorem headers_isValid_iff (settings : SynthesisSettings) (token : AccessToken) :
    (SpeechService.headers settings token).all Http.Header.isValid = true ↔
      ¬ ∃ value ∈ [settings.outputFormat, "Bearer " ++ token.text, settings.appId,
        settings.clientId, settings.userAgent], Garbles value := by
  have hfixed : (Http.Header.ofText "Content-Type" SpeechService.contentType).isValid = true := by
    decide
  simp [SpeechService.headers, hfixed, Http.Header.isValid_ofText_iff, AccessToken.bearer]

/-- A world whose services do not answer. -/
def silence : World where
  client := .builtIn
  tokenService := fun _ => .stalled
  speechService := fun _ => .stalled
  device := none
  freshId := ""

theorem exists_reaches {address : String} (hread : (Url.read? address).isSome = true)
    (hnamed : ∀ named ∈ Url.read? address, named.hasHost = true ∧ named.takeUser.2 = none ∧
      Request.isUsable named.takeUser.1 = true ∧ named.takeUser.1.text = address) :
    ∃ url, Request.Reaches .builtIn address url none ∧ url.text = address := by
  obtain ⟨named, hread⟩ := Option.isSome_iff_exists.mp hread
  obtain ⟨hhost, huser, husable, htext⟩ := hnamed named hread
  exact ⟨named.takeUser.1, ⟨⟨named, hread, hhost, Prod.ext rfl huser⟩, husable⟩, htext⟩

theorem exists_reaches_synthesis :
    ∃ url, Request.Reaches .builtIn ({} : Settings).synthesis.url url none ∧
      url.text = ({} : Settings).synthesis.url :=
  exists_reaches (by decide +kernel) (by decide +kernel)

end Program

end CloudSpeech
