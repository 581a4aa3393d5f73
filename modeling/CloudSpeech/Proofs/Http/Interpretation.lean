import CloudSpeech.Proofs.Http.Timeouts

/-!
# What the services make of an exchange

Each service reads an exchange on its own, but both read it alike. A success gives what its body
holds, as a text or as octets. Any other response is reported with its status and its text, whatever
its body is. The two part ways over a body that is blank as a text, which makes a sound but no
token.
-/

namespace CloudSpeech

namespace Octets

theorem toByteArray_ofText (text : String) : (ofText text).toByteArray = text.toByteArray := by
  have hencoded := String.toByteArray_ofList (l := text.toList)
  rw [String.ofList_toList] at hencoded
  exact hencoded.symm

theorem ofText_injective : Function.Injective ofText := by
  intro text other hsame
  apply String.toByteArray_inj.mp
  rw [← toByteArray_ofText, ← toByteArray_ofText, hsame]

theorem utf8EncodeChar_ofNat {b : UInt8} (h : b < 0x80) :
    String.utf8EncodeChar (Char.ofNat b.toNat) = [b] := by
  have hall : ∀ n < 0x80, String.utf8EncodeChar (Char.ofNat n) = [UInt8.ofNat n] := by decide
  rw [hall b.toNat (UInt8.lt_iff_toNat_lt.mp h), UInt8.ofNat_toNat]

theorem ofText_ofList_ascii {octets : Octets} (h : ∀ b ∈ octets, b < 0x80) :
    ofText (String.ofList (octets.map fun b => Char.ofNat b.toNat)) = octets := by
  rw [ofText, String.toList_ofList]
  induction octets with
  | nil => rfl
  | cons b rest ih =>
      obtain ⟨hfirst, hrest⟩ := List.forall_mem_cons.mp h
      rw [List.map_cons, List.flatMap_cons, utf8EncodeChar_ofNat hfirst, ih hrest]
      rfl

end Octets

namespace Http

namespace Header

/-- The value of the first header with a name. -/
def IsFirst (headers : List Header) (name : String) (value : Octets) : Prop :=
  ∃ before header after, headers = before ++ header :: after ∧ header.value = value ∧
    sameName header.name name = true ∧ ∀ other ∈ before, sameName other.name name = false

theorem first?_eq_some_iff {headers : List Header} {name : String} {value : Octets} :
    first? headers name = some value ↔ IsFirst headers name value := by
  rw [first?, Option.map_eq_some_iff]
  constructor
  · rintro ⟨header, hfound, hvalue⟩
    obtain ⟨hname, before, after, hheaders, hbefore⟩ := List.find?_eq_some_iff_append.mp hfound
    refine ⟨before, header, after, hheaders, hvalue, hname, fun other hother => ?_⟩
    simpa using hbefore other hother
  · rintro ⟨before, header, after, hheaders, hvalue, hname, hbefore⟩
    refine ⟨header, List.find?_eq_some_iff_append.mpr ⟨hname, before, after, hheaders, ?_⟩, hvalue⟩
    intro other hother
    rw [hbefore other hother, Bool.not_false]

theorem lt_of_isVisible {b : UInt8} (h : isVisible b = true) : b < 0x80 := by
  simp only [isVisible, Bool.or_eq_true, Bool.and_eq_true, decide_eq_true_eq] at h
  rcases h with rfl | ⟨-, h⟩
  · decide
  · exact UInt8.lt_trans h (by decide)

theorem text?_eq_some_iff {value : Octets} {text : String} :
    text? value = some text ↔
      (∀ b ∈ value, isVisible b = true) ∧ Octets.ofText text = value := by
  rw [text?, ← List.all_eq_true]
  split
  · next hvisible =>
    have hkept := Octets.ofText_ofList_ascii fun b hb =>
      lt_of_isVisible (List.all_eq_true.mp hvisible b hb)
    rw [Option.some.injEq]
    constructor
    · rintro rfl
      exact ⟨hvisible, hkept⟩
    · rintro ⟨-, hsame⟩
      exact Octets.ofText_injective (hkept.trans hsame.symm)
  · next hvisible => exact iff_of_false nofun fun h => hvisible h.1

end Header

namespace Response

/-- The status of a response is one of the two hundreds. -/
def Succeeds (response : Response) : Prop := 200 ≤ response.status ∧ response.status < 300

/-- The body has arrived and reads as a text, in the encoding that the headers name. -/
def HasText (response : Response) (client : Client) (text : String) : Prop :=
  ∃ octets, response.body = .complete octets ∧
    client.decode
      ((Header.firstText? response.headers "Content-Type").bind MediaType.charset?) octets = text

/-- The text that a refusal is reported with: a body that does not arrive shows nothing. -/
inductive Shows (response : Response) (client : Client) : String → Prop
  | arrived {text : String} (h : response.HasText client text) : Shows response client text
  | lost (h : ∀ octets, response.body ≠ .complete octets) : Shows response client ""

variable {response : Response} {client : Client} {text : String}

theorem isSuccess_iff : isSuccess response.status = true ↔ response.Succeeds := by
  simp [isSuccess, Succeeds]

theorem octets?_eq_some_iff {octets : Octets} :
    response.octets? = some octets ↔ response.body = .complete octets := by
  rw [octets?]
  cases response.body <;> simp

theorem text?_eq_some_iff : response.text? client = some text ↔ response.HasText client text := by
  simp only [text?, Option.map_eq_some_iff, octets?_eq_some_iff, HasText]

theorem HasText.unique {other : String} (h : response.HasText client text)
    (hother : response.HasText client other) : text = other :=
  Option.some.inj ((text?_eq_some_iff.mpr h).symm.trans (text?_eq_some_iff.mpr hother))

theorem HasText.exists_shown_iff (h : response.HasText client text) :
    (∃ other, response.HasText client other ∧ ∃ c ∈ other.toList, Text.isBlank c = false) ↔
      ¬ ∀ c ∈ text.toList, Text.isBlank c = true := by
  constructor
  · rintro ⟨other, hother, c, hc, hshown⟩ hblank
    rw [← h.unique hother] at hc
    exact absurd (hblank c hc) (Bool.eq_false_iff.mp hshown)
  · intro hshown
    simp only [Classical.not_forall, Bool.not_eq_true, exists_prop] at hshown
    obtain ⟨c, hc, hshown⟩ := hshown
    exact ⟨text, h, c, hc, hshown⟩

theorem shows_text? (response : Response) (client : Client) :
    response.Shows client ((response.text? client).getD "") := by
  cases htext : response.text? client with
  | some text => exact .arrived (text?_eq_some_iff.mp htext)
  | none =>
      refine .lost fun octets hbody => ?_
      exact Option.some_ne_none _ ((text?_eq_some_iff.mpr ⟨octets, hbody, rfl⟩).symm.trans htext)

end Response

end Http

open Http (Exchange Response Header)

namespace TokenService

variable {client : Http.Client} {response : Response}

theorem value_outcome_eq_ok_iff (request : Http.Request) (exchange : Exchange) (text : String) :
    (outcome client request exchange).value = .ok ⟨text⟩ ↔
      ∃ response, exchange = .answered response ∧ response.Succeeds ∧ response.HasText client text ∧
        ∃ c ∈ text.toList, Text.isBlank c = false := by
  have hgrants :
      (outcome client request exchange).value = .ok ⟨text⟩ ↔ Grants client exchange text := by
    cases exchange with
    | answered response => exact value_read_eq_ok_iff response ⟨text⟩
    | unreachable | broken | stalled => simp [outcome, Grants]
  rw [hgrants, Grants]
  simp only [Response.isSuccess_iff, Response.text?_eq_some_iff, Text.allBlank,
    List.all_eq_false, Bool.not_eq_true]

theorem exists_value_outcome_eq_ok_iff (request : Http.Request) (exchange : Exchange) :
    (∃ issued, (outcome client request exchange).value = .ok issued) ↔
      ∃ response text, exchange = .answered response ∧ response.Succeeds ∧
        response.HasText client text ∧ ∃ c ∈ text.toList, Text.isBlank c = false := by
  constructor
  · rintro ⟨⟨text⟩, hissued⟩
    obtain ⟨response, h⟩ := (value_outcome_eq_ok_iff request exchange text).mp hissued
    exact ⟨response, text, h⟩
  · rintro ⟨response, text, h⟩
    exact ⟨⟨text⟩, (value_outcome_eq_ok_iff request exchange text).mpr ⟨response, h⟩⟩

theorem value_read_of_refusal (h : ¬ response.Succeeds) :
    (read client response).value =
      .error (.rejected response.status ((response.text? client).getD "")) := by
  have hrefused := Bool.eq_false_iff.mpr (mt Response.isSuccess_iff.mp h)
  rw [read, hrefused]
  rfl

theorem value_read_of_success (h : response.Succeeds) {error : TokenError}
    (hfailed : (read client response).value = .error error) :
    ∃ reason, error = .invalidResponse reason := by
  rw [read, Response.isSuccess_iff.mpr h] at hfailed
  cases htext : response.text? client with
  | none =>
      simp only [htext] at hfailed
      exact ⟨_, (Except.error.inj hfailed).symm⟩
  | some text =>
      cases hblank : Text.allBlank text with
      | true =>
          simp only [htext, hblank] at hfailed
          exact ⟨_, (Except.error.inj hfailed).symm⟩
      | false =>
          simp only [htext, hblank] at hfailed
          cases hfailed

end TokenService

namespace SpeechService

/-- The name of an exchange: the value of the first header for it, if all of that is visible, and
else the fresh name. -/
inductive Names (response : Response) (freshId : String) : String → Prop
  | given {requestId : String} {value : Octets}
      (first : Header.IsFirst response.headers requestIdHeader value)
      (visible : ∀ b ∈ value, Header.isVisible b = true)
      (same : Octets.ofText requestId = value) : Names response freshId requestId
  | fresh (hidden : ∀ value, Header.IsFirst response.headers requestIdHeader value →
      ∃ b ∈ value, Header.isVisible b = false) : Names response freshId freshId

variable {client : Http.Client} {response : Response} {freshId requestId : String}

theorem firstText?_eq_none_of_hidden
    (hidden : ∀ value, Header.IsFirst response.headers requestIdHeader value →
      ∃ b ∈ value, Header.isVisible b = false) :
    Header.firstText? response.headers requestIdHeader = none := by
  refine Option.eq_none_iff_forall_ne_some.mpr fun text htext => ?_
  obtain ⟨value, hfirst, htext⟩ := Option.bind_eq_some_iff.mp htext
  obtain ⟨b, hb, hhidden⟩ := hidden value (Header.first?_eq_some_iff.mp hfirst)
  exact absurd ((Header.text?_eq_some_iff.mp htext).1 b hb) (Bool.eq_false_iff.mp hhidden)

theorem names_iff : Names response freshId requestId ↔
    (Header.firstText? response.headers requestIdHeader).getD freshId = requestId := by
  constructor
  · rintro (⟨hfirst, hvisible, hsame⟩ | hhidden)
    · rw [Header.firstText?, Header.first?_eq_some_iff.mpr hfirst, Option.bind_some,
        Header.text?_eq_some_iff.mpr ⟨hvisible, hsame⟩, Option.getD_some]
    · rw [firstText?_eq_none_of_hidden hhidden, Option.getD_none]
  · rintro rfl
    cases htext : Header.firstText? response.headers requestIdHeader with
    | some text =>
        obtain ⟨value, hfirst, htext⟩ := Option.bind_eq_some_iff.mp htext
        obtain ⟨hvisible, hsame⟩ := Header.text?_eq_some_iff.mp htext
        exact .given (Header.first?_eq_some_iff.mp hfirst) hvisible hsame
    | none =>
        refine .fresh fun value hfirst => ?_
        rw [Header.firstText?, Header.first?_eq_some_iff.mpr hfirst, Option.bind_some,
          Header.text?, ite_eq_right_iff] at htext
        have hvisible : ¬ value.all Header.isVisible = true := fun hall => nomatch htext hall
        simpa using hvisible

theorem value_read_eq_ok_iff (audio : Octets) :
    (read client freshId response).value = .ok ⟨requestId, audio⟩ ↔
      response.Succeeds ∧ response.body = .complete audio ∧ Names response freshId requestId := by
  rw [← Response.isSuccess_iff, ← Response.octets?_eq_some_iff, names_iff, read]
  cases Http.isSuccess response.status with
  | false => simp
  | true => cases response.octets? <;> simp [and_comm]

theorem value_outcome_eq_ok_iff (freshId requestId : String) (request : Http.Request)
    (exchange : Exchange) (audio : Octets) :
    (outcome client freshId request exchange).value = .ok ⟨requestId, audio⟩ ↔
      ∃ response, exchange = .answered response ∧ response.Succeeds ∧
        response.body = .complete audio ∧ Names response freshId requestId := by
  cases exchange with
  | answered response => simpa [outcome] using value_read_eq_ok_iff audio
  | unreachable | broken | stalled => simp [outcome]

theorem exists_value_outcome_eq_ok_iff (freshId : String) (request : Http.Request)
    (exchange : Exchange) :
    (∃ sound, (outcome client freshId request exchange).value = .ok sound) ↔
      ∃ response text, exchange = .answered response ∧ response.Succeeds ∧
        response.HasText client text := by
  constructor
  · rintro ⟨⟨requestId, audio⟩, hdelivered⟩
    obtain ⟨response, hexchange, hsuccess, hbody, -⟩ :=
      (value_outcome_eq_ok_iff freshId requestId request exchange audio).mp hdelivered
    exact ⟨response, _, hexchange, hsuccess, audio, hbody, rfl⟩
  · rintro ⟨response, text, hexchange, hsuccess, audio, hbody, -⟩
    obtain ⟨requestId, hnames⟩ : ∃ requestId, Names response freshId requestId :=
      ⟨_, names_iff.mpr rfl⟩
    refine ⟨⟨requestId, audio⟩, ?_⟩
    apply (value_outcome_eq_ok_iff freshId requestId request exchange audio).mpr
    exact ⟨response, hexchange, hsuccess, hbody, hnames⟩

theorem value_read_of_refusal (h : ¬ response.Succeeds) (freshId : String) :
    (read client freshId response).value = .error (.service
      ("HTTP " ++ Http.statusLine response.status ++ ": " ++
        (response.text? client).getD "")) := by
  have hrefused := Bool.eq_false_iff.mpr (mt Response.isSuccess_iff.mp h)
  rw [read, hrefused]
  rfl

theorem value_read_of_success (h : response.Succeeds) {error : SynthesisError}
    (hfailed : (read client freshId response).value = .error error) :
    ∃ reason, error = .invalidResponse reason := by
  rw [read, Response.isSuccess_iff.mpr h] at hfailed
  cases hoctets : response.octets? with
  | none =>
      simp only [hoctets] at hfailed
      exact ⟨_, (Except.error.inj hfailed).symm⟩
  | some audio =>
      simp only [hoctets] at hfailed
      cases hfailed

end SpeechService

namespace Http

/-- What the services make of the same exchange, one as a token and one as speech. -/
structure Interprets (client : Client) (exchange : Exchange) (freshId : String)
    (token : Except TokenError AccessToken) (speech : Except SynthesisError Speech) : Prop where
  token_iff : ∀ text, token = .ok ⟨text⟩ ↔
    ∃ response, exchange = .answered response ∧ response.Succeeds ∧ response.HasText client text ∧
      ∃ c ∈ text.toList, Text.isBlank c = false
  speech_iff : ∀ requestId audio, speech = .ok ⟨requestId, audio⟩ ↔
    ∃ response, exchange = .answered response ∧ response.Succeeds ∧
      response.body = .complete audio ∧ SpeechService.Names response freshId requestId
  refused : ∀ response, exchange = .answered response → ¬ response.Succeeds →
    ∃ text, response.Shows client text ∧ token = .error (.rejected response.status text) ∧
      speech = .error (.service ("HTTP " ++ statusLine response.status ++ ": " ++ text))
  accepted : ∀ response, exchange = .answered response → response.Succeeds →
    (∀ error, token = .error error → ∃ reason, error = .invalidResponse reason) ∧
      ∀ error, speech = .error error → ∃ reason, error = .invalidResponse reason
  together_iff : ((∃ issued, token = .ok issued) ↔ ∃ sound, speech = .ok sound) ↔
    ¬ ∃ response text, exchange = .answered response ∧ response.Succeeds ∧
      response.HasText client text ∧ ∀ c ∈ text.toList, Text.isBlank c = true

theorem together_iff (client : Client) (first second : Request) (exchange : Exchange)
    (freshId : String) :
    ((∃ issued, (TokenService.outcome client first exchange).value = .ok issued) ↔
        ∃ sound, (SpeechService.outcome client freshId second exchange).value = .ok sound) ↔
      ¬ ∃ response text, exchange = .answered response ∧ response.Succeeds ∧
        response.HasText client text ∧ ∀ c ∈ text.toList, Text.isBlank c = true := by
  rw [TokenService.exists_value_outcome_eq_ok_iff, SpeechService.exists_value_outcome_eq_ok_iff]
  constructor
  · -- The text of a body is the only one, so a blank body has no other text that makes a token.
    rintro hsame ⟨response, text, rfl, hsuccess, htext, hblank⟩
    obtain ⟨_, other, hresponse, -, hshown⟩ := hsame.mpr ⟨response, text, rfl, hsuccess, htext⟩
    cases hresponse
    exact htext.exists_shown_iff.mp ⟨other, hshown⟩ hblank
  · intro hnone
    constructor
    · rintro ⟨response, text, hexchange, hsuccess, htext, -⟩
      exact ⟨response, text, hexchange, hsuccess, htext⟩
    · rintro ⟨response, text, hexchange, hsuccess, htext⟩
      obtain ⟨other, hshown⟩ := htext.exists_shown_iff.mpr fun hblank =>
        hnone ⟨response, text, hexchange, hsuccess, htext, hblank⟩
      exact ⟨response, other, hexchange, hsuccess, hshown⟩

/-- A token is the text of a success, exactly as it is, if any of it is more than blank; speech is
the body of a success, whatever it is, with the name that the first header for it gives or else a
fresh one. A refusal is reported as one, and a success never is. So an exchange succeeds for both
services or fails for both, unless it is a success whose text is blank. -/
theorem services_interpret_alike {client : Client} {tokenSettings : TokenSettings}
    {synthesisSettings : SynthesisSettings} {apiKey document : String} {token : AccessToken}
    {first second : Request} {exchange : Exchange} (tokenService speechService : Service)
    (hfirst : TokenService.request client tokenSettings apiKey = .ok first)
    (hsecond : SpeechService.request client synthesisSettings token document = .ok second)
    (htoken : tokenService first = exchange) (hspeech : speechService second = exchange)
    (freshId : String) :
    Interprets client exchange freshId
      (TokenService.fetch client tokenSettings tokenService apiKey).value
      (SpeechService.synthesize client synthesisSettings speechService freshId token
        document).value := by
  rw [(TokenService.fetch_of_ok hfirst tokenService).2,
    (SpeechService.synthesize_of_ok freshId hsecond speechService).2, htoken, hspeech]
  refine ⟨?_, ?_, ?_, ?_, together_iff client first second exchange freshId⟩
  · intro text
    exact TokenService.value_outcome_eq_ok_iff first exchange text
  · intro requestId audio
    exact SpeechService.value_outcome_eq_ok_iff freshId requestId second exchange audio
  · rintro response rfl hrefused
    refine ⟨(response.text? client).getD "", response.shows_text? client, ?_, ?_⟩
    · exact TokenService.value_read_of_refusal hrefused
    · exact SpeechService.value_read_of_refusal hrefused freshId
  · rintro response rfl hsuccess
    constructor
    · intro error hfailed
      exact TokenService.value_read_of_success hsuccess hfailed
    · intro error hfailed
      exact SpeechService.value_read_of_success hsuccess hfailed

/-- A body with space around its text is kept by both services, and the second of two names does
not count. -/
theorem services_keep_spaced_body :
    let response : Response := ⟨201,
      [.ofText "x-requestid" "", .ofText "X-RequestId" "second"],
      .complete (Octets.ofText "\u2003tok\n")⟩
    ∃ first second, TokenService.request .builtIn {} "key" = .ok first ∧
      SpeechService.request .builtIn {} ⟨"token"⟩ "<speak/>" = .ok second ∧
      (TokenService.fetch .builtIn {} (fun _ => .answered response) "key").value =
        .ok ⟨"\u2003tok\n"⟩ ∧
      (SpeechService.synthesize .builtIn {} (fun _ => .answered response) "fresh" ⟨"token"⟩
        "<speak/>").value = .ok ⟨"", Octets.ofText "\u2003tok\n"⟩ := by
  intro response
  obtain ⟨first, hfirst⟩ := exists_token_request
  obtain ⟨second, hsecond⟩ := exists_speech_request
  have hinterprets := services_interpret_alike (fun _ => .answered response)
    (fun _ => .answered response) hfirst hsecond rfl rfl "fresh"
  have hsuccess : response.Succeeds := ⟨by decide, by decide⟩
  have htext : response.HasText .builtIn "\u2003tok\n" :=
    Response.text?_eq_some_iff.mp (by decide +kernel)
  have hnamed : Header.IsFirst response.headers SpeechService.requestIdHeader [] :=
    Header.first?_eq_some_iff.mp (by decide +kernel)
  refine ⟨first, second, hfirst, hsecond, ?_, ?_⟩
  · apply (hinterprets.token_iff _).mpr
    exact ⟨response, rfl, hsuccess, htext, 't', by decide, by decide⟩
  · apply (hinterprets.speech_iff _ _).mpr
    exact ⟨response, rfl, hsuccess, rfl, .given hnamed nofun rfl⟩

end Http

end CloudSpeech
