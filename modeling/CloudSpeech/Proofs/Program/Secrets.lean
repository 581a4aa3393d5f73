import CloudSpeech.Proofs.Http.Twins
import CloudSpeech.Proofs.Program.Flow

/-!
# Secrets are not shown

The key, the token and the message are sent and never shown. Two invocations that differ in
nothing else, and that the services and the device meet in the same way, report the same events,
print the same and end with the same exit code.
-/

namespace CloudSpeech

open Http.Header (Garbles)
open Voice (catalog)

/-! ## A session -/

namespace Session

/-- Two sessions report the same events and have the same result. What they ask for may differ. -/
structure Alike {α : Type} (session session' : Session α) : Prop where
  events : session.events = session'.events
  result : session.result = session'.result

variable {α β γ : Type}

theorem bind_alike {first : Session α} {first' : Session β} {next : α → Session γ}
    {next' : β → Session γ} (hevents : first.events = first'.events)
    (hresult : Matched (fun a b => Alike (next a) (next' b)) first.result first'.result) :
    Alike (first >>= next) (first' >>= next') := by
  obtain ⟨calls, events, result⟩ := first
  obtain ⟨calls', events', result'⟩ := first'
  cases hevents
  cases hresult with
  | error error => exact ⟨rfl, rfl⟩
  | ok halike => exact ⟨congrArg (events ++ ·) halike.events, halike.result⟩

end Session

namespace Speak

variable {options : Options} {backend backend' : Backend} {command command' : Command}

/-- Two backends differ in nothing but the token when each is asked to speak a message. -/
structure AnswerTwins (options : Options) (backend backend' : Backend)
    (command command' : Command) : Prop where
  token : Logged.Matches AccessToken.Alike (backend.fetchToken command.apiKey)
    (backend'.fetchToken command'.apiKey)
  speech : ∀ voice token token', catalog[command.voiceIndex]? = some voice →
    (backend.fetchToken command.apiKey).value = .ok token →
    (backend'.fetchToken command'.apiKey).value = .ok token' →
    backend.synthesize token (options.document voice command) =
      backend'.synthesize token' (options.document voice command')
  sound : ∀ audio, backend.play options.format audio = backend'.play options.format audio

/-- What is reported and what comes of it is the same in two sessions that are given tokens of
the same size and the same speech. -/
theorem handle_alike (hindex : command.voiceIndex = command'.voiceIndex)
    (htwins : AnswerTwins options backend backend' command command') :
    Session.Alike (handle options backend command) (handle options backend' command') := by
  rw [handle, handle, ← hindex]
  cases hvoice : catalog[command.voiceIndex]? with
  | none =>
      rw [chooseVoice_of_le (List.getElem?_eq_none_iff.mp hvoice)]
      exact Session.bind_alike rfl (.error _)
  | some voice =>
      rw [chooseVoice_of_getElem? hvoice]
      refine Session.bind_alike rfl (.ok ?_)
      refine Session.bind_alike rfl (.ok ?_)
      -- From here on the tokens differ. Nothing but the answers to them is reported.
      refine Session.bind_alike htwins.token.events ((htwins.token.value.imp ?_).mapError _)
      intro token token' htoken htoken' _
      have hspeech := htwins.speech voice token token' hvoice htoken htoken'
      dsimp only
      rw [hspeech]
      refine Session.bind_alike rfl (.same _ fun speech => ?_)
      rw [htwins.sound]
      exact Session.bind_alike rfl (.same _ fun report => ⟨rfl, rfl⟩)

end Speak

/-! ## The whole invocation -/

namespace Program

open CommandLine (Arguments Word)
open TokenService (Grants)

/-- A request for speech follows on a request for a token that is granted. -/
def FollowsUp (settings : Settings) (world : World) (apiKey document : String)
    (second : Http.Request) : Prop :=
  ∃ first text, AsksForToken world.client settings apiKey first ∧
    Grants world.client (world.tokenService first) text ∧
    AsksForSpeech world.client settings text document second

/-- Two messages meet the same in two worlds, but for the text of the token. -/
structure MeetAlike (settings : Settings) (world world' : World) (apiKey apiKey' : String)
    (document document' : String) : Prop where
  keys : Garbles apiKey ↔ Garbles apiKey'
  documents : document.utf8ByteSize = document'.utf8ByteSize
  client : world.client = world'.client
  token : ∀ first first', AsksForToken world.client settings apiKey first →
    AsksForToken world'.client settings apiKey' first' →
    TokenService.Twins world.client (world.tokenService first) (world'.tokenService first')
  speech : ∀ second second', FollowsUp settings world apiKey document second →
    FollowsUp settings world' apiKey' document' second' →
    world.speechService second = world'.speechService second'
  device : world.device = world'.device
  freshId : world.freshId = world'.freshId

variable {settings : Settings} {world world' : World} {command command' : Command}

theorem answerTwins_of_meetAlike {voice : Voice}
    (hvoice : catalog[command.voiceIndex]? = some voice)
    (hmeet : MeetAlike settings world world' command.apiKey command'.apiKey
      (Ssml.render voice command.message settings.synthesis.escapeText)
      (Ssml.render voice command'.message settings.synthesis.escapeText)) :
    Speak.AnswerTwins (speakOptions settings) (backend world settings) (backend world' settings)
      command command' := by
  obtain ⟨hkeys, hdocuments, hclient, htoken, hspeech, hdevice, hfresh⟩ := hmeet
  obtain ⟨client, tokenService, speechService, device, freshId⟩ := world
  obtain ⟨client', tokenService', speechService', device', freshId'⟩ := world'
  obtain rfl : client = client' := hclient
  obtain rfl : device = device' := hdevice
  obtain rfl : freshId = freshId' := hfresh
  have hfetched := TokenService.fetch_matches settings.token tokenService tokenService' hkeys
    fun first first' hfirst hfirst' =>
      htoken first first' ((asksForToken_iff first).mp hfirst)
        ((asksForToken_iff first').mp hfirst')
  refine ⟨hfetched, fun other token token' hother hissued hissued' => ?_, fun audio => rfl⟩
  cases hvoice.symm.trans hother
  have halike : token.Alike token' := hfetched.value.related hissued hissued'
  obtain ⟨text⟩ := token
  obtain ⟨text'⟩ := token'
  obtain ⟨first, hfirst, hgranted⟩ := (value_fetchToken_backend_iff _).mp hissued
  obtain ⟨first', hfirst', hgranted'⟩ := (value_fetchToken_backend_iff _).mp hissued'
  refine SpeechService.synthesize_alike settings.synthesis freshId halike hdocuments
    fun second second' hsecond hsecond' => ?_
  exact hspeech second second'
    ⟨first, text, hfirst, hgranted, (asksForSpeech_iff text second).mp hsecond⟩
    ⟨first', text', hfirst', hgranted', (asksForSpeech_iff text' second').mp hsecond'⟩

/-- What is seen of an outcome: all but what was asked of the backend. -/
def Outcome.seen (outcome : Outcome) : Outcome := { outcome with calls := [] }

theorem Outcome.same_of_seen_eq {outcome outcome' : Outcome} (h : outcome.seen = outcome'.seen)
    (environment : List (String × String)) :
    outcome.code = outcome'.code ∧ outcome.stdout = outcome'.stdout ∧
      outcome.stderr = outcome'.stderr ∧ outcome.events = outcome'.events ∧
      outcome.logged environment = outcome'.logged environment := by
  obtain ⟨code, stdout, stderr, events, madeFor, calls⟩ := outcome
  obtain ⟨code', stdout', stderr', events', madeFor', calls'⟩ := outcome'
  cases h
  exact ⟨rfl, rfl, rfl, rfl, rfl⟩

theorem conclude_seen_eq {session session' : Session Speak.Response}
    (h : Session.Alike session session') :
    (conclude session).seen = (conclude session').seen := by
  obtain ⟨calls, events, result⟩ := session
  obtain ⟨calls', events', result'⟩ := session'
  obtain ⟨hevents, hresult⟩ := h
  cases hevents
  cases hresult
  cases result with
  | ok response => rfl
  | error error => cases hvalid : error.isValidation <;> simp [conclude, Outcome.seen, hvalid]

variable {words words' : List Word} {directory : Settings.Directory}
  {environment : List (String × String)} {make make' : BackendMaker}

theorem run_seen_eq {configPath : Option String} (hstart : start words = .speak command configPath)
    (hstart' : start words' = .speak command' configPath)
    (hmake : ∀ settings, Settings.load directory environment configPath = .ok settings →
      Matched (fun made made' =>
        Session.Alike (Speak.handle (speakOptions settings) made command)
          (Speak.handle (speakOptions settings) made' command'))
        (make settings) (make' settings)) :
    (run directory environment make words).seen =
      (run directory environment make' words').seen := by
  simp only [run, hstart, hstart']
  cases hload : Settings.load directory environment configPath with
  | error error => rfl
  | ok settings =>
      have hmade := hmake settings hload
      have hspoken : (speakWith settings make command).seen =
          (speakWith settings make' command').seen := by
        rw [speakWith, speakWith]
        generalize make settings = made at hmade
        generalize make' settings = made' at hmade
        cases hmade with
        | error reasons => rfl
        | ok halike => exact conclude_seen_eq halike
      exact congrArg (fun outcome => outcome.under environment settings) hspoken

theorem start_of_voice_outside {arguments : Arguments}
    (hread : Arguments.read words.tail = .ok arguments)
    (hcommand : arguments.invocation = .ok (.speak command))
    (houtside : catalog.length ≤ command.voiceIndex) :
    start words = .over exitUsage
      (line (Voice.OutOfRange.message ⟨command.voiceIndex, catalog.length⟩)) "" := by
  simp only [start, hread, hcommand, Voice.lookup_of_le houtside]

/-- Invocations that differ in their key, their message and the text of their token, and in
nothing else that they meet, look the same from outside: the same is logged and printed, and they
end with the same exit code. So do all parts that handle a secret look the same on their own:
fetching a token with another key, using another token for another document of the same size, and
speaking with other backends that answer alike. -/
theorem secrets_are_not_shown :
    (∀ (client : Http.Client) (settings : TokenSettings) (service service' : Http.Service)
        (apiKey apiKey' : String),
      (Garbles apiKey ↔ Garbles apiKey') →
      (∀ sent sent', TokenService.request client settings apiKey = .ok sent →
        TokenService.request client settings apiKey' = .ok sent' →
        TokenService.Twins client (service sent) (service' sent')) →
      TokenService.shown (TokenService.fetch client settings service apiKey).logged =
        TokenService.shown (TokenService.fetch client settings service' apiKey').logged) ∧
    (∀ (client : Http.Client) (settings : SynthesisSettings) (service service' : Http.Service)
        (freshId : String) (token token' : AccessToken) (document document' : String),
      token.Alike token' → document.utf8ByteSize = document'.utf8ByteSize →
      (∀ sent sent', SpeechService.request client settings token document = .ok sent →
        SpeechService.request client settings token' document' = .ok sent' →
        service sent = service' sent') →
      (SpeechService.synthesize client settings service freshId token document).logged =
        (SpeechService.synthesize client settings service' freshId token' document').logged) ∧
    (∀ (options : Speak.Options) (backend backend' : Backend) (command command' : Command),
      command.voiceIndex = command'.voiceIndex →
      Speak.AnswerTwins options backend backend' command command' →
      (Speak.handle options backend command).events =
          (Speak.handle options backend' command').events ∧
        (Speak.handle options backend command).result =
          (Speak.handle options backend' command').result) ∧
    ∀ (words words' : List Word) (arguments arguments' : Arguments) (command command' : Command)
        (directory : Settings.Directory) (environment : List (String × String))
        (world world' : World) (make make' : BackendMaker),
      Arguments.read words.tail = .ok arguments →
      Arguments.read words'.tail = .ok arguments' →
      arguments.invocation = .ok (.speak command) →
      arguments'.invocation = .ok (.speak command') →
      command.voiceIndex = command'.voiceIndex →
      arguments.configPath = arguments'.configPath →
      (∀ settings, Matched (fun made made' => made = backend world settings ∧
        made' = backend world' settings) (make settings) (make' settings)) →
      (∀ settings voice, Settings.load directory environment
          (arguments.configPath.map (·.shown)) = .ok settings →
        catalog[command.voiceIndex]? = some voice →
        MeetAlike settings world world' command.apiKey command'.apiKey
          (Ssml.render voice command.message settings.synthesis.escapeText)
          (Ssml.render voice command'.message settings.synthesis.escapeText)) →
      ∃ outcome outcome', run directory environment make words = outcome ∧
        run directory environment make' words' = outcome' ∧
        outcome.code = outcome'.code ∧ outcome.stdout = outcome'.stdout ∧
        outcome.stderr = outcome'.stderr ∧ outcome.events = outcome'.events ∧
        outcome.logged environment = outcome'.logged environment := by
  refine ⟨?_, ?_, ?_, ?_⟩
  · intro client settings service service' apiKey apiKey' hkeys hservice
    exact TokenService.shown_eq_of_matches
      (TokenService.fetch_matches settings service service' hkeys hservice)
  · intro client settings service service' freshId token token' document document' htokens
      hdocuments hservice
    exact SpeechService.synthesize_alike settings freshId htokens hdocuments hservice
  · intro options backend backend' command command' hindex htwins
    have halike := Speak.handle_alike hindex htwins
    exact ⟨halike.events, halike.result⟩
  · intro words words' arguments arguments' command command' directory environment world world'
      make make' hread hread' hcommand hcommand' hindex hpath hmake hmeet
    have hseen : (run directory environment make words).seen =
        (run directory environment make' words').seen := by
      rcases Nat.lt_or_ge command.voiceIndex catalog.length with hinside | houtside
      · have hvoice := List.getElem?_eq_getElem hinside
        have hstart := (start_eq_speak_iff command _).mpr
          ⟨arguments, hread, hcommand, hinside, rfl⟩
        have hstart' := (start_eq_speak_iff command' _).mpr
          ⟨arguments', hread', hcommand', hindex ▸ hinside, rfl⟩
        rw [← hpath] at hstart'
        refine run_seen_eq hstart hstart' fun settings hload => ?_
        have htwins := answerTwins_of_meetAlike hvoice (hmeet settings _ hload hvoice)
        refine (hmake settings).imp fun made made' _ _ hmade => ?_
        obtain ⟨rfl, rfl⟩ := hmade
        exact Speak.handle_alike hindex htwins
      · have hover := start_of_voice_outside hread hcommand houtside
        have hover' := start_of_voice_outside hread' hcommand' (hindex ▸ houtside)
        rw [← hindex] at hover'
        simp only [run, hover, hover']
    exact ⟨_, _, rfl, rfl, Outcome.same_of_seen_eq hseen environment⟩

/-- Two keys, two tokens and two messages of the same sizes: nothing that is shown tells the
two invocations apart, nor the steps on their own. -/
theorem other_secrets_not_shown :
    let words : List Word := [.text "bing-tts", .text "key-one", .text "0", .text "hello"]
    let words' : List Word := [.text "bing-tts", .text "key-two", .text "0", .text "howdy"]
    let directory := Settings.Folder.toDirectory ⟨"/work", []⟩
    let tokenService (token : String) : Http.Service :=
      fun _ => .answered ⟨200, [], .complete (Octets.ofText token)⟩
    let speechService : Http.Service := fun _ => .answered ⟨200, [], .complete [1, 0, 2, 0]⟩
    let device : Audio.Device := { events := [.request ⟨3, ⟨0⟩, ⟨0⟩⟩] }
    let make (token : String) : BackendMaker := fun settings =>
      .ok (backend ⟨.builtIn, tokenService token, speechService, some device, ""⟩ settings)
    let answers (token : String) : Backend := {
      fetchToken := fun _ => ⟨[], .ok ⟨token⟩⟩
      synthesize := fun _ _ => ⟨[], .ok ⟨"", [1, 0, 2, 0]⟩⟩
      play := fun _ _ => ⟨[], .died 7 none⟩ }
    TokenService.shown
          (TokenService.fetch .builtIn {} (tokenService "alpha") "key-one").logged =
        TokenService.shown
          (TokenService.fetch .builtIn {} (tokenService "bravo") "key-two").logged ∧
      (SpeechService.synthesize .builtIn {} speechService "" ⟨"alpha"⟩ "<b>hello</b>").logged =
        (SpeechService.synthesize .builtIn {} speechService "" ⟨"bravo"⟩
          "<b>howdy</b>").logged ∧
      (Speak.handle {} (answers "alpha") ⟨"key-one", 0, "hello"⟩).events =
        (Speak.handle {} (answers "bravo") ⟨"key-two", 0, "howdy"⟩).events ∧
      ∃ outcome outcome', run directory [] (make "alpha") words = outcome ∧
        run directory [] (make "bravo") words' = outcome' ∧
        outcome.code = outcome'.code ∧ outcome.stdout = outcome'.stdout ∧
        outcome.stderr = outcome'.stderr ∧ outcome.events = outcome'.events ∧
        outcome.logged [] = outcome'.logged [] := by
  intro words words' directory tokenService speechService device make answers
  have hclean : ∀ text ∈ ["key-one", "key-two", "Bearer alpha", "Bearer bravo"],
      ¬ Garbles text := by
    decide +kernel
  have hkeys : Garbles "key-one" ↔ Garbles "key-two" :=
    iff_of_false (hclean _ (by decide)) (hclean _ (by decide))
  have htokens : AccessToken.Alike ⟨"alpha"⟩ ⟨"bravo"⟩ :=
    ⟨by decide, iff_of_false (hclean _ (by decide)) (hclean _ (by decide))⟩
  have htwins : ∀ first first', TokenService.Twins .builtIn (tokenService "alpha" first)
      (tokenService "bravo" first') := by
    intro first first'
    have hgranted : Grants .builtIn (tokenService "alpha" first) "alpha" :=
      ⟨_, rfl, rfl, by decide +kernel, by decide +kernel⟩
    have hgranted' : Grants .builtIn (tokenService "bravo" first') "bravo" :=
      ⟨_, rfl, rfl, by decide +kernel, by decide +kernel⟩
    exact .inr ⟨"alpha", "bravo", hgranted, hgranted', htokens⟩
  obtain ⟨hfetch, hsynthesize, hhandle, hrun⟩ := secrets_are_not_shown
  refine ⟨?_, ?_, ?_, ?_⟩
  · exact hfetch .builtIn {} _ _ _ _ hkeys fun first first' _ _ => htwins first first'
  · exact hsynthesize .builtIn {} _ _ "" _ _ _ _ htokens (by decide) fun _ _ _ _ => rfl
  · refine (hhandle {} (answers "alpha") (answers "bravo") ⟨"key-one", 0, "hello"⟩
      ⟨"key-two", 0, "howdy"⟩ rfl ⟨⟨rfl, .ok htokens⟩, ?_, fun _ => rfl⟩).1
    exact fun _ _ _ _ _ _ => rfl
  · have hread : Arguments.read words.tail =
        .ok ⟨some "key-one", some 0, some "hello", [], false, false, none⟩ := by rfl
    have hread' : Arguments.read words'.tail =
        .ok ⟨some "key-two", some 0, some "howdy", [], false, false, none⟩ := by rfl
    refine hrun words words' _ _ ⟨"key-one", 0, "hello"⟩ ⟨"key-two", 0, "howdy"⟩ directory []
      _ _ (make "alpha") (make "bravo") hread hread' rfl rfl rfl rfl
      (fun settings => .ok ⟨rfl, rfl⟩) fun settings voice hload hvoice => ?_
    have hsettings : settings = {} := by
      have hloaded : (Settings.load (Settings.Folder.toDirectory ⟨"/work", []⟩) []
          none).toOption = some {} := by decide +kernel
      exact Except.ok.inj (hload.symm.trans (toOption_eq_some_iff.mp hloaded))
    have hfirst : voice = ⟨"ar-EG", .female, "(ar-EG, Hoda)"⟩ :=
      Option.some.inj (hvoice.symm.trans rfl)
    rw [hsettings, hfirst]
    exact ⟨hkeys, by decide +kernel, rfl, fun first first' _ _ => htwins first first',
      fun _ _ _ _ => rfl, rfl, rfl⟩

end Program

end CloudSpeech
