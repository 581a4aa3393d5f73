import CloudSpeech.Proofs.Http.Headers
import CloudSpeech.Speak

/-!
# Answers that do not tell secrets apart

A key, a token and a document leave nothing but sizes in the events, and nothing at all in the
errors. Two keys, or two tokens with two documents, get matching answers from a service that
treats them alike, if both or neither can be sent.
-/

namespace CloudSpeech

open Http.Header (Garbles)

/-- Two results fail in the same way, or succeed with values in a relation. -/
inductive Matched {ε α β : Type} (r : α → β → Prop) : Except ε α → Except ε β → Prop
  | error (error : ε) : Matched r (.error error) (.error error)
  | ok {a : α} {b : β} (h : r a b) : Matched r (.ok a) (.ok b)

namespace Matched

variable {ε ε' α β : Type} {r s : α → β → Prop} {x : Except ε α} {y : Except ε β}

theorem related (h : Matched r x y) {a : α} {b : β} (hx : x = .ok a) (hy : y = .ok b) :
    r a b := by
  cases h with
  | error error => cases hx
  | ok h =>
      cases hx
      cases hy
      exact h

theorem imp (h : Matched r x y) (himp : ∀ a b, x = .ok a → y = .ok b → r a b → s a b) :
    Matched s x y := by
  cases h with
  | error error => exact .error error
  | ok h => exact .ok (himp _ _ rfl rfl h)

theorem mapError (f : ε → ε') (h : Matched r x y) :
    Matched r (x.mapError f) (y.mapError f) := by
  cases h with
  | error error => exact .error (f error)
  | ok h => exact .ok h

theorem same {r : α → α → Prop} (x : Except ε α) (h : ∀ a, r a a) : Matched r x x := by
  cases x with
  | error error => exact .error error
  | ok a => exact .ok (h a)

end Matched

/-- Two answers come with the same events and have matching values. -/
structure Logged.Matches {ε α β : Type} (r : α → β → Prop) (x : Logged (Except ε α))
    (y : Logged (Except ε β)) : Prop where
  events : x.events = y.events
  value : Matched r x.value y.value

/-- Two tokens differ in nothing that shows: they have the same size, and both or neither can be
sent. -/
structure AccessToken.Alike (token token' : AccessToken) : Prop where
  size : token.text.utf8ByteSize = token'.text.utf8ByteSize
  garbles : Garbles token.bearer ↔ Garbles token'.bearer

theorem AccessToken.Alike.redacted_eq {token token' : AccessToken} (h : token.Alike token') :
    token.redacted = token'.redacted := by
  unfold redacted
  rw [h.size]

/-- Whether a request can be built and where it goes depends on the address and on whether all
values are valid. -/
theorem Http.Request.build_matched (client : Client) {address : String}
    {headers headers' : List Header} (body body' : Octets)
    (hvalid : headers.all Header.isValid = headers'.all Header.isValid) :
    Matched (fun request request' => request.url = request'.url)
      (build client address headers body) (build client address headers' body') := by
  rw [build, build]
  cases client.readUrl address with
  | none => exact .error _
  | some url =>
      -- A user that the address names adds the same header to both.
      simp only [List.all_append, hvalid]
      split
      · exact .error _
      · split
        · exact .error _
        · split
          · exact .error _
          · exact .ok rfl

theorem Http.Request.failure_eq {request request' : Request} (hurl : request.url = request'.url) :
    request.failure = request'.failure := by
  unfold failure
  rw [hurl]

theorem Http.Header.isValid_eq_of_garbles {name text text' : String}
    (h : Garbles text ↔ Garbles text') :
    (ofText name text).isValid = (ofText name text').isValid :=
  Bool.eq_iff_iff.mpr (by rw [isValid_ofText_iff, isValid_ofText_iff, h])

namespace TokenService

/-- Two exchanges differ in nothing but the text of the token that they give. -/
def Twins (client : Http.Client) (exchange exchange' : Http.Exchange) : Prop :=
  exchange = exchange' ∨ ∃ text text', Grants client exchange text ∧ Grants client exchange' text' ∧
    AccessToken.Alike ⟨text⟩ ⟨text'⟩

/-- What is shown of an answer: its token is redacted. -/
def shown (answer : Logged (Except TokenError AccessToken)) :
    Logged (Except TokenError String) :=
  answer.map (·.map AccessToken.redacted)

theorem shown_eq_of_matches {answer answer' : Logged (Except TokenError AccessToken)}
    (h : Logged.Matches AccessToken.Alike answer answer') : shown answer = shown answer' := by
  obtain ⟨events, value⟩ := answer
  obtain ⟨events', value'⟩ := answer'
  obtain ⟨hevents, hvalue⟩ := h
  cases hevents
  cases hvalue with
  | error error => rfl
  | ok halike => simp [shown, Logged.map, Except.map, halike.redacted_eq]

variable {client : Http.Client}

theorem outcome_of_grants {exchange : Http.Exchange} {text : String}
    (h : Grants client exchange text) (request : Http.Request) :
    outcome client request exchange = ⟨[event .debug "Access token issued"
      [("token_len", .number text.utf8ByteSize)]], .ok ⟨text⟩⟩ := by
  obtain ⟨response, rfl, hsuccess, htext, hblank⟩ := h
  simp only [outcome, read, hsuccess, htext, hblank]
  rfl

theorem outcome_congr {request request' : Http.Request} (hurl : request.url = request'.url)
    (exchange : Http.Exchange) :
    outcome client request exchange = outcome client request' exchange := by
  cases exchange <;> simp only [outcome, Http.Request.failure_eq hurl]

theorem matches_refl (answer : Logged (Except TokenError AccessToken)) :
    Logged.Matches AccessToken.Alike answer answer :=
  ⟨rfl, .same answer.value fun _ => ⟨rfl, .rfl⟩⟩

theorem outcome_matches {request request' : Http.Request} {exchange exchange' : Http.Exchange}
    (hurl : request.url = request'.url) (htwins : Twins client exchange exchange') :
    Logged.Matches AccessToken.Alike (outcome client request exchange)
      (outcome client request' exchange') := by
  rcases htwins with rfl | ⟨text, text', hgranted, hgranted', halike⟩
  · rw [outcome_congr hurl]
    exact matches_refl _
  · rw [outcome_of_grants hgranted, outcome_of_grants hgranted', halike.size]
    exact ⟨rfl, .ok halike⟩

/-- What is reported and answered about two keys matches, if both or neither can be sent and the
exchanges are twins. -/
theorem fetch_matches (settings : TokenSettings) (service service' : Http.Service)
    {key key' : String} (hkeys : Garbles key ↔ Garbles key')
    (hservice : ∀ sent sent', request client settings key = .ok sent →
      request client settings key' = .ok sent' → Twins client (service sent) (service' sent')) :
    Logged.Matches AccessToken.Alike (fetch client settings service key).logged
      (fetch client settings service' key').logged := by
  have hvalid : [Http.Header.ofText keyHeader key].all Http.Header.isValid =
      [Http.Header.ofText keyHeader key'].all Http.Header.isValid := by
    simp only [List.all_cons, Http.Header.isValid_eq_of_garbles hkeys]
  have hbuilt : Matched (fun sent sent' => sent.url = sent'.url) (request client settings key)
      (request client settings key') :=
    Http.Request.build_matched client [] [] hvalid
  rw [fetch, fetch]
  generalize request client settings key = built at hbuilt hservice
  generalize request client settings key' = built' at hbuilt hservice
  cases hbuilt with
  | error error => exact matches_refl _
  | ok hurl =>
      have houtcome := outcome_matches hurl (hservice _ _ rfl rfl)
      exact ⟨congrArg ([_] ++ ·) houtcome.events, houtcome.value⟩

end TokenService

namespace SpeechService

variable {client : Http.Client}

theorem outcome_congr (freshId : String) {request request' : Http.Request}
    (hurl : request.url = request'.url) (exchange : Http.Exchange) :
    outcome client freshId request exchange = outcome client freshId request' exchange := by
  cases exchange <;> simp only [outcome, Http.Request.failure_eq hurl]

theorem headers_all_isValid_eq (settings : SynthesisSettings) {token token' : AccessToken}
    (h : Garbles token.bearer ↔ Garbles token'.bearer) :
    (headers settings token).all Http.Header.isValid =
      (headers settings token').all Http.Header.isValid := by
  simp only [headers, List.all_cons, Http.Header.isValid_eq_of_garbles h]

/-- Tokens that are alike and documents of the same size get the same answer with the same
events, if the service answers both requests in the same way. -/
theorem synthesize_alike (settings : SynthesisSettings) {service service' : Http.Service}
    (freshId : String) {token token' : AccessToken} {document document' : String}
    (htokens : token.Alike token') (hdocuments : document.utf8ByteSize = document'.utf8ByteSize)
    (hservice : ∀ sent sent', request client settings token document = .ok sent →
      request client settings token' document' = .ok sent' → service sent = service' sent') :
    (synthesize client settings service freshId token document).logged =
      (synthesize client settings service' freshId token' document').logged := by
  have hbuilt : Matched (fun sent sent' => sent.url = sent'.url)
      (request client settings token document) (request client settings token' document') :=
    Http.Request.build_matched client _ _ (headers_all_isValid_eq settings htokens.garbles)
  rw [synthesize, synthesize, hdocuments]
  generalize request client settings token document = built at hbuilt hservice
  generalize request client settings token' document' = built' at hbuilt hservice
  cases hbuilt with
  | error error => rfl
  | @ok sent sent' hurl =>
      simp only [Http.Conversation.logged_bind, Http.Conversation.logged_send,
        outcome_congr freshId hurl, hservice sent sent' rfl rfl]

end SpeechService

end CloudSpeech
