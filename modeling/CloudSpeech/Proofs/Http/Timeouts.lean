import CloudSpeech.Proofs.Http.Services

/-!
# What is reported when the time is over

The time for an exchange may be over before a response begins or in the middle of its body. Both
services report a timeout in the first case and in no other: when the time ends in the body of a
success, they report that the response is invalid.
-/

namespace CloudSpeech

namespace Http

/-- The time is over before all of a success has arrived. -/
inductive Exchange.RunsOut : Exchange → Prop
  | beforeResponse : RunsOut .stalled
  | inBody {response : Response} (success : isSuccess response.status = true)
      (stalled : response.body = .stalled) : RunsOut (.answered response)

theorem Response.octets?_of_stalled {response : Response} (h : response.body = .stalled) :
    response.octets? = none := by
  simp only [octets?, h]

theorem Response.text?_of_stalled {response : Response} (h : response.body = .stalled)
    (client : Client) : response.text? client = none := by
  simp only [text?, octets?_of_stalled h, Option.map_none]

end Http

namespace TokenService

/-- What is reported when the time for a token is over. -/
def timeOver : Http.Exchange → TokenError
  | .stalled => .timeout
  | _ => .invalidResponse "Failed to read token: error decoding response body"

variable (client : Http.Client)

theorem value_read_ne_timeout (response : Http.Response) :
    (read client response).value ≠ .error .timeout := by
  rw [read]
  cases Http.isSuccess response.status with
  | false => simp
  | true =>
      cases response.text? client with
      | none => simp
      | some text => cases hblank : Text.allBlank text <;> simp [hblank]

theorem value_outcome_eq_timeout_iff (request : Http.Request) (exchange : Http.Exchange) :
    (outcome client request exchange).value = .error .timeout ↔ exchange = .stalled := by
  cases exchange with
  | answered response => exact iff_of_false (value_read_ne_timeout client response) nofun
  | unreachable | broken | stalled => simp [outcome]

theorem value_outcome_of_runsOut {exchange : Http.Exchange} (h : exchange.RunsOut)
    (request : Http.Request) :
    (outcome client request exchange).value = .error (timeOver exchange) := by
  cases h with
  | beforeResponse => rfl
  | inBody success stalled =>
      simp only [outcome, read, success, Http.Response.text?_of_stalled stalled]
      rfl

end TokenService

namespace SpeechService

/-- What is reported when the time for a sound is over. -/
def timeOver : Http.Exchange → SynthesisError
  | .stalled => .timeout
  | _ => .invalidResponse "Failed to read audio: error decoding response body"

variable (client : Http.Client)

theorem value_read_ne_timeout (freshId : String) (response : Http.Response) :
    (read client freshId response).value ≠ .error .timeout := by
  rw [read]
  cases Http.isSuccess response.status with
  | false => simp
  | true => cases response.octets? <;> simp

theorem value_outcome_eq_timeout_iff (freshId : String) (request : Http.Request)
    (exchange : Http.Exchange) :
    (outcome client freshId request exchange).value = .error .timeout ↔ exchange = .stalled := by
  cases exchange with
  | answered response => exact iff_of_false (value_read_ne_timeout client freshId response) nofun
  | unreachable | broken | stalled => simp [outcome]

theorem value_outcome_of_runsOut {exchange : Http.Exchange} (h : exchange.RunsOut)
    (freshId : String) (request : Http.Request) :
    (outcome client freshId request exchange).value = .error (timeOver exchange) := by
  cases h with
  | beforeResponse => rfl
  | inBody success stalled =>
      simp only [outcome, read, success, Http.Response.octets?_of_stalled stalled]
      rfl

end SpeechService

namespace Http

section Services

variable {tokenSettings : TokenSettings} {synthesisSettings : SynthesisSettings}
  {apiKey document : String} {token : AccessToken} {first second : Request}

/-- When the time for a request is over, both services report a timeout if no response has begun,
and an invalid response if one has. They report a timeout for no other exchange. -/
theorem time_over_reported (client : Client) (tokenService speechService : Service)
    (hfirst : TokenService.request client tokenSettings apiKey = .ok first)
    (hsecond : SpeechService.request client synthesisSettings token document = .ok second)
    (hover : (tokenService first).RunsOut)
    (hover' : (speechService second).RunsOut) (freshId : String) :
    ((TokenService.fetch client tokenSettings tokenService apiKey).value =
        .error (TokenService.timeOver (tokenService first)) ∧
      (SpeechService.synthesize client synthesisSettings speechService freshId token
        document).value = .error (SpeechService.timeOver (speechService second))) ∧
    ∀ service : Service,
      ((TokenService.fetch client tokenSettings service apiKey).value = .error .timeout ↔
        service first = .stalled) ∧
      ((SpeechService.synthesize client synthesisSettings service freshId token document).value =
        .error .timeout ↔ service second = .stalled) := by
  refine ⟨⟨?_, ?_⟩, fun service => ⟨?_, ?_⟩⟩
  · rw [(TokenService.fetch_of_ok hfirst tokenService).2,
      TokenService.value_outcome_of_runsOut client hover]
  · rw [(SpeechService.synthesize_of_ok freshId hsecond speechService).2,
      SpeechService.value_outcome_of_runsOut client hover']
  · rw [(TokenService.fetch_of_ok hfirst service).2, TokenService.value_outcome_eq_timeout_iff]
  · rw [(SpeechService.synthesize_of_ok freshId hsecond service).2,
      SpeechService.value_outcome_eq_timeout_iff]

end Services

theorem exists_token_request : ∃ request, TokenService.request .builtIn {} "key" = .ok request := by
  have hbuilt : (TokenService.request .builtIn {} "key").toOption.isSome = true := by decide +kernel
  obtain ⟨request, hrequest⟩ := Option.isSome_iff_exists.mp hbuilt
  exact ⟨request, toOption_eq_some_iff.mp hrequest⟩

theorem exists_speech_request :
    ∃ request, SpeechService.request .builtIn {} ⟨"token"⟩ "<speak/>" = .ok request := by
  have hbuilt :
      (SpeechService.request .builtIn {} ⟨"token"⟩ "<speak/>").toOption.isSome = true := by
    decide +kernel
  obtain ⟨request, hrequest⟩ := Option.isSome_iff_exists.mp hbuilt
  exact ⟨request, toOption_eq_some_iff.mp hrequest⟩

/-- A token service that falls silent in the middle of its answer, and a speech service that does
not answer at all. -/
theorem time_over_in_token_body :
    ∃ first second, TokenService.request .builtIn {} "key" = .ok first ∧
      SpeechService.request .builtIn {} ⟨"token"⟩ "<speak/>" = .ok second ∧
      (Exchange.answered ⟨200, [], .stalled⟩).RunsOut ∧ Exchange.stalled.RunsOut ∧
      (TokenService.fetch .builtIn {} (fun _ => .answered ⟨200, [], .stalled⟩) "key").value =
        .error (.invalidResponse "Failed to read token: error decoding response body") ∧
      (SpeechService.synthesize .builtIn {} (fun _ => .stalled) "" ⟨"token"⟩ "<speak/>").value =
        .error .timeout := by
  obtain ⟨first, hfirst⟩ := exists_token_request
  obtain ⟨second, hsecond⟩ := exists_speech_request
  have hover : (Exchange.answered ⟨200, [], .stalled⟩).RunsOut := .inBody rfl rfl
  obtain ⟨⟨htoken, hspeech⟩, -⟩ := time_over_reported .builtIn
    (fun _ => .answered ⟨200, [], .stalled⟩) (fun _ => .stalled) hfirst hsecond hover .beforeResponse ""
  exact ⟨first, second, hfirst, hsecond, hover, .beforeResponse, htoken, hspeech⟩

/-- Time that is over in the middle of a body is reported by neither service as what it is. -/
theorem timeout_in_body_not_reported :
    (Exchange.answered ⟨200, [], .stalled⟩).RunsOut ∧
      (TokenService.fetch .builtIn {} (fun _ => .answered ⟨200, [], .stalled⟩) "key").value ≠
        .error .timeout ∧
      (SpeechService.synthesize .builtIn {} (fun _ => .answered ⟨200, [], .stalled⟩) "" ⟨"token"⟩
        "<speak/>").value ≠ .error .timeout := by
  obtain ⟨first, hfirst⟩ := exists_token_request
  obtain ⟨second, hsecond⟩ := exists_speech_request
  refine ⟨.inBody rfl rfl, ?_, ?_⟩
  · rw [(TokenService.fetch_of_ok hfirst _).2]
    exact TokenService.value_read_ne_timeout .builtIn _
  · rw [(SpeechService.synthesize_of_ok "" hsecond _).2]
    exact SpeechService.value_read_ne_timeout .builtIn "" _

end Http

end CloudSpeech
