import CloudSpeech.Proofs.Success
import CloudSpeech.SpeechService
import CloudSpeech.TokenService

/-!
# What the services are asked for and what they give

A request is sent only where it can be built. `Request.Posts` says when that is and what the
request carries; `TokenService.Grants` and `SpeechService.Delivers` say which exchanges give a
token or a sound. A service is handed the request that can be built, once, and nothing else. A
token is fetched, and a document synthesized, exactly if there is that request and its exchange
gives what was asked for.
-/

namespace CloudSpeech

namespace Http.Request

/-- A request takes a body to an address, with headers. A user that the address names makes a
header before the others. -/
def Posts (request : Request) (client : Client) (address : String) (headers : List Header)
    (body : Octets) : Prop :=
  ∃ url, client.readUrl address = some url ∧ url.hasHost = true ∧
    request = ⟨url.takeUser.1, (url.takeUser.2.map userHeader).toList ++ headers, body⟩ ∧
    request.headers.all Header.isValid = true ∧ isUsable request.url = true

variable {client : Client} {address : String} {headers : List Header} {body : Octets}
  {request : Request}

theorem build_eq_ok_iff :
    build client address headers body = .ok request ↔
      request.Posts client address headers body := by
  rw [build, Posts]
  cases client.readUrl address with
  | none => simp
  | some url =>
      simp only [Option.some.injEq, exists_eq_left']
      cases hhost : url.hasHost with
      | false => simp
      | true =>
          simp only [Bool.not_true, Bool.false_eq_true, if_false, true_and]
          constructor
          · intro hbuilt
            split at hbuilt
            · cases hbuilt
            · next hvalid =>
                split at hbuilt
                · cases hbuilt
                · next husable =>
                    cases hbuilt
                    exact ⟨rfl, by simpa using hvalid, by simpa using husable⟩
          · rintro ⟨rfl, hvalid, husable⟩
            rw [if_neg (by simpa using hvalid), if_neg (by simpa using husable)]

theorem Posts.unique {other : Request} (h : request.Posts client address headers body)
    (hother : other.Posts client address headers body) : request = other :=
  Except.ok.inj ((build_eq_ok_iff.mpr h).symm.trans (build_eq_ok_iff.mpr hother))

end Http.Request

namespace TokenService

/-- An exchange gives a text as the token: it is the body of a success, and not blank. -/
def Grants (client : Http.Client) (exchange : Http.Exchange) (text : String) : Prop :=
  ∃ response, exchange = .answered response ∧ Http.isSuccess response.status = true ∧
    response.text? client = some text ∧ Text.allBlank text = false

variable {client : Http.Client}

theorem Grants.unique {exchange : Http.Exchange} {text other : String}
    (h : Grants client exchange text) (hother : Grants client exchange other) : text = other := by
  obtain ⟨response, rfl, -, htext, -⟩ := h
  obtain ⟨response', hsame, -, hother, -⟩ := hother
  cases hsame
  exact Option.some.inj (htext.symm.trans hother)

theorem grants_answered_iff (response : Http.Response) (text : String) :
    Grants client (.answered response) text ↔ Http.isSuccess response.status = true ∧
      response.text? client = some text ∧ Text.allBlank text = false := by
  simp [Grants]

theorem value_read_eq_ok_iff (response : Http.Response) (token : AccessToken) :
    (read client response).value = .ok token ↔ Grants client (.answered response) token.text := by
  obtain ⟨content⟩ := token
  rw [read, grants_answered_iff]
  cases Http.isSuccess response.status with
  | false => simp
  | true =>
      cases response.text? client with
      | none => simp
      | some text =>
          cases hblank : Text.allBlank text with
          | false =>
              have hissued : text = content ↔ text = content ∧ Text.allBlank content = false :=
                ⟨fun hsame => ⟨hsame, hsame ▸ hblank⟩, And.left⟩
              simpa [hblank] using hissued
          | true =>
              have hwithheld : text = content → Text.allBlank content = true :=
                fun hsame => hsame ▸ hblank
              simpa [hblank] using hwithheld

section

variable {settings : TokenSettings} {apiKey : String}

theorem request_eq_ok_iff {request : Http.Request} :
    TokenService.request client settings apiKey = .ok request ↔
      request.Posts client settings.url [.ofText keyHeader apiKey] [] :=
  Http.Request.build_eq_ok_iff

theorem fetch_of_ok {request : Http.Request}
    (h : TokenService.request client settings apiKey = .ok request) (service : Http.Service) :
    (fetch client settings service apiKey).sent = [request] ∧
      (fetch client settings service apiKey).value =
        (outcome client request (service request)).value := by
  rw [fetch, h]
  exact ⟨rfl, rfl⟩

theorem fetch_of_error {error : Http.BuildError}
    (h : TokenService.request client settings apiKey = .error error) (service : Http.Service) :
    (fetch client settings service apiKey).sent = [] ∧
      (fetch client settings service apiKey).value = .error (.network error.message) := by
  rw [fetch, h]
  exact ⟨rfl, rfl⟩

theorem value_fetch_eq_ok_iff (client : Http.Client) (settings : TokenSettings)
    (service : Http.Service) (apiKey : String) (token : AccessToken) :
    (fetch client settings service apiKey).value = .ok token ↔
      ∃ request : Http.Request,
        request.Posts client settings.url [.ofText keyHeader apiKey] [] ∧
          Grants client (service request) token.text := by
  simp only [← request_eq_ok_iff]
  cases hrequest : TokenService.request client settings apiKey with
  | error error => simp [(fetch_of_error hrequest service).2]
  | ok request =>
      simp only [(fetch_of_ok hrequest service).2, Except.ok.injEq, exists_eq_left']
      cases hexchange : service request with
      | answered response => exact value_read_eq_ok_iff response token
      | unreachable | broken | stalled => simp [outcome, Grants]

end

end TokenService

namespace SpeechService

/-- An exchange gives a sound: it is the whole body of a success. -/
def Delivers (exchange : Http.Exchange) (audio : Octets) : Prop :=
  ∃ response, exchange = .answered response ∧ Http.isSuccess response.status = true ∧
    response.body = .complete audio

theorem Delivers.unique {exchange : Http.Exchange} {audio other : Octets}
    (h : Delivers exchange audio) (hother : Delivers exchange other) : audio = other := by
  obtain ⟨response, rfl, -, hbody⟩ := h
  obtain ⟨response', hsame, -, hother⟩ := hother
  cases hsame
  exact Http.Body.complete.inj (hbody.symm.trans hother)

variable {client : Http.Client} (freshId : String)

section

variable {settings : SynthesisSettings} {token : AccessToken} {document : String}

theorem request_eq_ok_iff {request : Http.Request} :
    SpeechService.request client settings token document = .ok request ↔
      request.Posts client settings.url (headers settings token) (Octets.ofText document) :=
  Http.Request.build_eq_ok_iff

theorem synthesize_of_ok {request : Http.Request}
    (h : SpeechService.request client settings token document = .ok request)
    (service : Http.Service) :
    (synthesize client settings service freshId token document).sent = [request] ∧
      (synthesize client settings service freshId token document).value =
        (outcome client freshId request (service request)).value := by
  rw [synthesize, h]
  exact ⟨rfl, rfl⟩

theorem synthesize_of_error {error : Http.BuildError}
    (h : SpeechService.request client settings token document = .error error)
    (service : Http.Service) :
    (synthesize client settings service freshId token document).sent = [] ∧
      (synthesize client settings service freshId token document).value =
        .error (.network error.message) := by
  rw [synthesize, h]
  exact ⟨rfl, rfl⟩

end

end SpeechService

end CloudSpeech
