import CloudSpeech.Proofs.Http.Interpretation
import CloudSpeech.Proofs.Program.Sending

/-!
# What becomes of an accepted token

The token service refuses a token for no other reason than that there is none, or that all of it is
blank. What it accepts is the value of a header of the next request, where control characters have
no place. So there are tokens that are accepted and cannot be sent, and they are found out only when
speech is asked for.
-/

namespace CloudSpeech

namespace TokenService

open Http (Exchange Response)

/-- A success without a text, or with one that is blank. -/
inductive Hollow (client : Http.Client) : Exchange → Prop
  | lost {response : Response} (success : response.Succeeds)
      (lost : ∀ octets, response.body ≠ .complete octets) : Hollow client (.answered response)
  | blank {response : Response} {text : String} (success : response.Succeeds)
      (read : response.HasText client text) (blank : ∀ c ∈ text.toList, Text.isBlank c = true) :
      Hollow client (.answered response)

variable {client : Http.Client}

theorem hollow_iff {response : Response} (hsuccess : response.Succeeds) :
    Hollow client (.answered response) ↔
      ¬ ∃ text, response.HasText client text ∧ ∃ c ∈ text.toList, Text.isBlank c = false := by
  constructor
  · rintro (⟨-, hlost⟩ | ⟨-, hread, hblank⟩) hshown
    · obtain ⟨_, ⟨octets, hbody, -⟩, -⟩ := hshown
      exact hlost octets hbody
    · exact hread.exists_shown_iff.mp hshown hblank
  · intro hnone
    by_cases hlost : ∀ octets, response.body ≠ .complete octets
    · exact .lost hsuccess hlost
    · simp only [not_forall, not_not] at hlost
      obtain ⟨octets, hbody⟩ := hlost
      have hread : response.HasText client _ := ⟨octets, hbody, rfl⟩
      exact .blank hsuccess hread (not_not.mp (mt hread.exists_shown_iff.mpr hnone))

theorem value_read_invalid_iff {response : Response} (hsuccess : response.Succeeds) :
    (∃ reason, (read client response).value = .error (.invalidResponse reason)) ↔
      ¬ ∃ token, (read client response).value = .ok token := by
  cases hvalue : (read client response).value with
  | error error =>
      obtain ⟨reason, rfl⟩ := value_read_of_success hsuccess hvalue
      exact iff_of_true ⟨reason, rfl⟩ (by simp)
  | ok token => exact iff_of_false (by simp) (not_not_intro ⟨token, rfl⟩)

theorem outcome_invalid_iff (request : Http.Request) (exchange : Exchange) :
    (∃ reason, (outcome client request exchange).value = .error (.invalidResponse reason)) ↔
      Hollow client exchange := by
  cases exchange with
  | unreachable | broken | stalled =>
      constructor
      · rintro ⟨reason, hinvalid⟩
        cases hinvalid
      · intro hhollow
        cases hhollow
  | answered response =>
      by_cases hsuccess : response.Succeeds
      · have hissued : (∃ token, (read client response).value = .ok token) ↔
            ∃ text, response.HasText client text ∧ ∃ c ∈ text.toList, Text.isBlank c = false := by
          simpa [outcome, hsuccess] using
            exists_value_outcome_eq_ok_iff request (.answered response)
        rw [hollow_iff hsuccess, ← hissued]
        exact value_read_invalid_iff hsuccess
      · -- A refusal is reported with its status, and its body does not matter.
        have hrefused : (outcome client request (.answered response)).value =
            .error (.rejected response.status ((response.text? client).getD "")) :=
          value_read_of_refusal hsuccess
        constructor
        · rintro ⟨reason, hinvalid⟩
          cases hrefused.symm.trans hinvalid
        · intro hhollow
          cases hhollow with
          | lost hsuccess' _ | blank hsuccess' _ _ => exact absurd hsuccess' hsuccess

end TokenService

namespace Program

open Http (Request)
open Http.Header (Garbles)

theorem garbles_append_iff (text other : String) :
    Garbles (text ++ other) ↔ Garbles text ∨ Garbles other := by
  simp only [Garbles, Octets.ofText_append, List.mem_append, or_and_right, exists_or]

theorem garbles_bearer_iff (token : AccessToken) : Garbles token.bearer ↔ Garbles token.text := by
  have hscheme : ¬ Garbles "Bearer " := by decide
  rw [AccessToken.bearer, garbles_append_iff, or_iff_right hscheme]

/-- The values of headers that settings give. -/
def headerValues (settings : SynthesisSettings) : List String :=
  [settings.outputFormat, settings.appId, settings.clientId, settings.userAgent]

theorem headers_all_isValid_iff {settings : SynthesisSettings}
    (hvalues : ∀ value ∈ headerValues settings, ¬ Garbles value) (token : AccessToken) :
    (SpeechService.headers settings token).all Http.Header.isValid = true ↔
      ¬ Garbles token.text := by
  rw [headers_isValid_iff, ← garbles_bearer_iff, not_iff_not]
  simp only [headerValues, List.forall_mem_cons] at hvalues
  obtain ⟨hformat, happ, hclient, hagent, -⟩ := hvalues
  constructor
  · rintro ⟨value, hvalue, hgarbled⟩
    simp only [List.mem_cons, List.not_mem_nil, or_false] at hvalue
    rcases hvalue with rfl | rfl | rfl | rfl | rfl
    · exact absurd hgarbled hformat
    · exact hgarbled
    · exact absurd hgarbled happ
    · exact absurd hgarbled hclient
    · exact absurd hgarbled hagent
  · intro hgarbled
    exact ⟨token.bearer, List.mem_cons_of_mem _ List.mem_cons_self, hgarbled⟩

/-- A token that has been accepted is the text of the answer. It is sent with every document exactly
if it holds no control character other than the tab; only then is it the value of a header. With
any other token nothing is sent, and the network is reported to have failed. The token service
reports an invalid response for nothing but a success without a text or with a blank one. -/
theorem accepted_token_sent_iff (world : World) {settings : Settings} {url : Url}
    {user : Option Url.User} {apiKey : String} {first : Request}
    (hreaches : Request.Reaches world.client settings.synthesis.url url user)
    (hvalues : ∀ value ∈ headerValues settings.synthesis, ¬ Garbles value)
    (hfirst : TokenService.request world.client settings.token apiKey = .ok first) :
    ((∃ reason, (fetchToken world settings apiKey).value = .error (.invalidResponse reason)) ↔
      TokenService.Hollow world.client (world.tokenService first)) ∧
    ∀ token, (fetchToken world settings apiKey).value = .ok token →
      (∃ response, world.tokenService first = .answered response ∧
        response.HasText world.client token.text) ∧
      ((Http.Header.ofText "Authorization" token.bearer).isValid = true ↔
        ¬ Garbles token.text) ∧
      ∀ document, ∃ request : Request, request.url = url ∧
        request.body = Octets.ofText document ∧
        .ofText "Authorization" token.bearer ∈ request.headers ∧
        (Sends world settings (.synthesize token document) request ↔ ¬ Garbles token.text) ∧
        (Withholds world settings (.synthesize token document) ↔ Garbles token.text) := by
  have hfetched : (fetchToken world settings apiKey).value =
      (TokenService.outcome world.client first (world.tokenService first)).value :=
    (TokenService.fetch_of_ok hfirst world.tokenService).2
  rw [hfetched]
  constructor
  · exact TokenService.outcome_invalid_iff first (world.tokenService first)
  · intro token hissued
    refine ⟨?_, ?_, fun document => ?_⟩
    · obtain ⟨response, hexchange, -, htext, -⟩ :=
        (TokenService.value_outcome_eq_ok_iff first _ token.text).mp hissued
      exact ⟨response, hexchange, htext⟩
    · rw [Http.Header.isValid_ofText_iff, garbles_bearer_iff]
    · have hvalid := headers_all_isValid_iff hvalues token
      have hbuilt := hreaches.build_eq (SpeechService.headers settings.synthesis token)
        (Octets.ofText document)
      refine ⟨⟨url, (user.map Request.userHeader).toList ++
        SpeechService.headers settings.synthesis token, Octets.ofText document⟩, rfl, rfl, ?_,
        sends_or_withholds (fun hclean => ?_) fun hgarbled => ?_⟩
      · exact List.mem_append_right _ (by simp [SpeechService.headers, Request.authorization])
      · exact sends_synthesize (hbuilt.trans (if_pos (hvalid.mpr hclean)))
      · exact withholds_synthesize (hbuilt.trans (if_neg fun h => hvalid.mp h hgarbled))

theorem not_garbles_default :
    ∀ value ∈ headerValues ({} : Settings).synthesis, ¬ Garbles value := by
  decide +kernel

/-- A world whose token service gives a text with status 200. -/
def giving (text : String) : World :=
  { silence with
    tokenService := fun _ => .answered ⟨200, [], .complete (Octets.ofText text)⟩ }

/-- A token with tabs and letters of another alphabet is sent as it is. -/
theorem sends_token_with_tabs :
    let world := giving "\tжук\t"
    ∃ url first, Request.Reaches world.client ({} : Settings).synthesis.url url none ∧
      (∀ value ∈ headerValues ({} : Settings).synthesis, ¬ Garbles value) ∧
      TokenService.request world.client {} "key" = .ok first ∧
      (fetchToken world {} "key").value = .ok ⟨"\tжук\t"⟩ ∧
      ∃ request, Http.Header.ofText "Authorization" "Bearer \tжук\t" ∈ request.headers ∧
        Sends world {} (.synthesize ⟨"\tжук\t"⟩ "<speak/>") request := by
  intro world
  obtain ⟨url, hreaches, -⟩ := exists_reaches_synthesis
  obtain ⟨first, hfirst⟩ := Http.exists_token_request
  have hissued : (fetchToken world {} "key").value = .ok ⟨"\tжук\t"⟩ :=
    toOption_eq_some_iff.mp (by decide +kernel)
  have hclean : ¬ Garbles "\tжук\t" := by decide +kernel
  obtain ⟨-, haccepted⟩ := accepted_token_sent_iff world hreaches not_garbles_default hfirst
  obtain ⟨-, -, hdocuments⟩ := haccepted _ hissued
  obtain ⟨request, -, -, hbearer, hsent, -⟩ := hdocuments "<speak/>"
  exact ⟨url, first, hreaches, not_garbles_default, hfirst, hissued, request, hbearer,
    hsent.mpr hclean⟩

/-- A line break behind a token is accepted with it, and then nothing can be sent. -/
theorem line_break_behind_token :
    let world := giving "tok\n"
    ∃ url, Request.Reaches world.client ({} : Settings).synthesis.url url none ∧
      (∀ value ∈ headerValues ({} : Settings).synthesis, ¬ Garbles value) ∧
      (fetchToken world {} "key").value = .ok ⟨"tok\n"⟩ ∧
      (Http.Header.ofText "Authorization" (AccessToken.bearer ⟨"tok\n"⟩)).isValid = false ∧
      Withholds world {} (.synthesize ⟨"tok\n"⟩ "<speak/>") ∧
      ¬ ∃ request, Sends world {} (.synthesize ⟨"tok\n"⟩ "<speak/>") request := by
  intro world
  obtain ⟨url, hreaches, -⟩ := exists_reaches_synthesis
  have hissued : (fetchToken world {} "key").value = .ok ⟨"tok\n"⟩ :=
    toOption_eq_some_iff.mp (by decide +kernel)
  have hgarbled : Garbles "tok\n" := by decide +kernel
  have hbuilt := hreaches.build_eq
    (SpeechService.headers ({} : Settings).synthesis ⟨"tok\n"⟩) (Octets.ofText "<speak/>")
  have hwithheld : Withholds world {} (.synthesize ⟨"tok\n"⟩ "<speak/>") :=
    withholds_synthesize (hbuilt.trans (if_neg fun h =>
      (headers_all_isValid_iff not_garbles_default _).mp h hgarbled))
  refine ⟨url, hreaches, not_garbles_default, hissued, by decide, hwithheld, ?_⟩
  rintro ⟨request, hsent⟩
  exact hsent.not_withholds hwithheld

end Program

end CloudSpeech
