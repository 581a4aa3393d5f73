import CloudSpeech.Proofs.Success
import CloudSpeech.Speak

/-!
# The course of speaking a message

Speaking a message ends in one of six ways, each with its own calls and its own result.
`Ends` lists them as rules about the voice and about what the backend answers, and the
session of a message is the one that these rules allow. What is asked of the backend, in
which order, and what comes of it is read off the rules.
-/

namespace CloudSpeech.Speak

open Voice (catalog)

variable {options : Options} {backend : Backend} {command : Command}
  {calls : List Call} {result : Except SpeakError Response}

/-- The error of a command whose voice is not in the catalog. -/
def refusal (command : Command) : SpeakError :=
  .validation (Voice.OutOfRange.message ⟨command.voiceIndex, catalog.length⟩)

/-- The ways in which speaking a message ends: the calls that are made and the result. -/
inductive Ends (options : Options) (backend : Backend) (command : Command) :
    List Call → Except SpeakError Response → Prop
  | refused (houtside : catalog.length ≤ command.voiceIndex) :
      Ends options backend command [] (.error (refusal command))
  | withoutToken {voice : Voice} {error : TokenError}
      (hvoice : catalog[command.voiceIndex]? = some voice)
      (hfailed : (backend.fetchToken command.apiKey).value = .error error) :
      Ends options backend command [.fetchToken command.apiKey] (.error (.token error))
  | withoutSpeech {voice : Voice} {token : AccessToken} {error : SynthesisError}
      (hvoice : catalog[command.voiceIndex]? = some voice)
      (htoken : (backend.fetchToken command.apiKey).value = .ok token)
      (hfailed : (backend.synthesize token (options.document voice command)).value =
        .error error) :
      Ends options backend command
        [.fetchToken command.apiKey, .synthesize token (options.document voice command)]
        (.error (.synthesis error))
  | unplayed {voice : Voice} {token : AccessToken} {speech : Speech}
      {error : Audio.PlaybackError}
      (hvoice : catalog[command.voiceIndex]? = some voice)
      (htoken : (backend.fetchToken command.apiKey).value = .ok token)
      (hspeech : (backend.synthesize token (options.document voice command)).value =
        .ok speech)
      (hfailed : (backend.play options.format speech.audio).value = .returned (.error error)) :
      Ends options backend command
        [.fetchToken command.apiKey, .synthesize token (options.document voice command),
          .play options.format speech.audio]
        (.error (.playback error))
  | died {voice : Voice} {token : AccessToken} {speech : Speech} {task : Nat}
      {message : Option String}
      (hvoice : catalog[command.voiceIndex]? = some voice)
      (htoken : (backend.fetchToken command.apiKey).value = .ok token)
      (hspeech : (backend.synthesize token (options.document voice command)).value =
        .ok speech)
      (hdied : (backend.play options.format speech.audio).value = .died task message) :
      Ends options backend command
        [.fetchToken command.apiKey, .synthesize token (options.document voice command),
          .play options.format speech.audio]
        (.error (.internal (SinkOutcome.obituary task message)))
  | spoken {voice : Voice} {token : AccessToken} {speech : Speech}
      {report : Audio.PlaybackReport}
      (hvoice : catalog[command.voiceIndex]? = some voice)
      (htoken : (backend.fetchToken command.apiKey).value = .ok token)
      (hspeech : (backend.synthesize token (options.document voice command)).value =
        .ok speech)
      (hplayed : (backend.play options.format speech.audio).value = .returned (.ok report)) :
      Ends options backend command
        [.fetchToken command.apiKey, .synthesize token (options.document voice command),
          .play options.format speech.audio]
        (.ok ⟨voice, speech.requestId, speech.audio.length, report.bytesWritten⟩)

/-- A session is the one that the rules allow. -/
theorem Ends.eq_handle (h : Ends options backend command calls result) :
    (handle options backend command).calls = calls ∧
      (handle options backend command).result = result := by
  cases h with
  | refused houtside =>
      simp [handle, chooseVoice_of_le houtside, Session.fail, refusal]
  | withoutToken hvoice hfailed =>
      simp [handle, chooseVoice_of_getElem? hvoice, hfailed]
  | withoutSpeech hvoice htoken hfailed =>
      simp [handle, chooseVoice_of_getElem? hvoice, htoken, hfailed]
  | unplayed hvoice htoken hspeech hfailed =>
      simp [handle, chooseVoice_of_getElem? hvoice, htoken, hspeech,
        SinkOutcome.result, hfailed]
  | died hvoice htoken hspeech hdied =>
      simp [handle, chooseVoice_of_getElem? hvoice, htoken, hspeech,
        SinkOutcome.result, hdied]
  | spoken hvoice htoken hspeech hplayed =>
      simp [handle, chooseVoice_of_getElem? hvoice, htoken, hspeech,
        SinkOutcome.result, hplayed]

/-- Whatever the backend answers, one of the rules applies. -/
theorem exists_ends (options : Options) (backend : Backend) (command : Command) :
    ∃ calls result, Ends options backend command calls result := by
  cases hvoice : catalog[command.voiceIndex]? with
  | none => exact ⟨_, _, .refused (List.getElem?_eq_none_iff.mp hvoice)⟩
  | some voice =>
      cases htoken : (backend.fetchToken command.apiKey).value with
      | error error => exact ⟨_, _, .withoutToken hvoice htoken⟩
      | ok token =>
          cases hspeech : (backend.synthesize token (options.document voice command)).value with
          | error error => exact ⟨_, _, .withoutSpeech hvoice htoken hspeech⟩
          | ok speech =>
              cases hplayed : (backend.play options.format speech.audio).value with
              | died task message => exact ⟨_, _, .died hvoice htoken hspeech hplayed⟩
              | returned answer =>
                  cases answer with
                  | error error => exact ⟨_, _, .unplayed hvoice htoken hspeech hplayed⟩
                  | ok report => exact ⟨_, _, .spoken hvoice htoken hspeech hplayed⟩

theorem ends_handle (options : Options) (backend : Backend) (command : Command) :
    Ends options backend command (handle options backend command).calls
      (handle options backend command).result := by
  obtain ⟨calls, result, h⟩ := exists_ends options backend command
  obtain ⟨hcalls, hresult⟩ := h.eq_handle
  rw [hcalls, hresult]
  exact h

theorem Ends.result_unique {calls' : List Call} {result' : Except SpeakError Response}
    (h : Ends options backend command calls result)
    (h' : Ends options backend command calls' result') : result = result' :=
  h.eq_handle.2.symm.trans h'.eq_handle.2

/-! ## What the rules say about the calls -/

theorem Ends.calls_prefix (h : Ends options backend command calls result) :
    ∃ token text audio, calls <+:
      [.fetchToken command.apiKey, .synthesize token text, .play options.format audio] := by
  cases h with
  | refused _ => exact ⟨⟨""⟩, "", [], List.nil_prefix⟩
  | withoutToken _ _ => exact ⟨⟨""⟩, "", [], by simp⟩
  | @withoutSpeech voice token _ _ _ _ =>
      exact ⟨token, options.document voice command, [], by simp⟩
  | @unplayed voice token speech _ _ _ _ _ | @died voice token speech _ _ _ _ _ _
  | @spoken voice token speech _ _ _ _ _ =>
      exact ⟨token, options.document voice command, speech.audio, List.prefix_rfl⟩

theorem Ends.calls_eq_nil_iff (h : Ends options backend command calls result) :
    calls = [] ↔ catalog.length ≤ command.voiceIndex := by
  cases h with
  | refused houtside => exact iff_of_true rfl houtside
  | withoutToken hvoice _ | withoutSpeech hvoice _ _ | unplayed hvoice _ _ _
  | died hvoice _ _ _ | spoken hvoice _ _ _ =>
      have hinside := (List.getElem?_eq_some_iff.mp hvoice).1
      exact iff_of_false (List.cons_ne_nil _ _) (Nat.not_le.mpr hinside)

theorem Ends.fetchToken_mem_iff (h : Ends options backend command calls result)
    (key : String) :
    .fetchToken key ∈ calls ↔
      command.voiceIndex < catalog.length ∧ key = command.apiKey := by
  cases h with
  | refused houtside => simp [Nat.not_lt.mpr houtside]
  | withoutToken hvoice _ | withoutSpeech hvoice _ _ | unplayed hvoice _ _ _
  | died hvoice _ _ _ | spoken hvoice _ _ _ =>
      simp [(List.getElem?_eq_some_iff.mp hvoice).1]

theorem Ends.synthesize_mem_iff (h : Ends options backend command calls result)
    (token : AccessToken) (text : String) :
    .synthesize token text ∈ calls ↔
      ∃ voice, catalog[command.voiceIndex]? = some voice ∧
        (backend.fetchToken command.apiKey).value = .ok token ∧
        text = options.document voice command := by
  cases h with
  | refused houtside => simp [List.getElem?_eq_none houtside]
  | withoutToken _ hfailed => simp [hfailed]
  | withoutSpeech hvoice htoken _ | unplayed hvoice htoken _ _ | died hvoice htoken _ _
  | spoken hvoice htoken _ _ =>
      simp [hvoice, htoken, eq_comm]

theorem Ends.play_mem_iff (h : Ends options backend command calls result)
    (format : Audio.Format) (audio : Octets) :
    .play format audio ∈ calls ↔
      format = options.format ∧ ∃ voice token speech,
        catalog[command.voiceIndex]? = some voice ∧
        (backend.fetchToken command.apiKey).value = .ok token ∧
        (backend.synthesize token (options.document voice command)).value = .ok speech ∧
        audio = speech.audio := by
  cases h with
  | refused houtside => simp [List.getElem?_eq_none houtside]
  | withoutToken _ hfailed => simp [hfailed]
  | withoutSpeech hvoice htoken hfailed => simp [hvoice, htoken, hfailed]
  | unplayed hvoice htoken hspeech _ | died hvoice htoken hspeech _
  | spoken hvoice htoken hspeech _ =>
      simp [hvoice, htoken, hspeech]

/-! ## What the rules say about the result -/

theorem Ends.result_eq_ok_iff (h : Ends options backend command calls result)
    (response : Response) :
    result = .ok response ↔
      ∃ voice token speech report, catalog[command.voiceIndex]? = some voice ∧
        (backend.fetchToken command.apiKey).value = .ok token ∧
        (backend.synthesize token (options.document voice command)).value = .ok speech ∧
        (backend.play options.format speech.audio).value = .returned (.ok report) ∧
        response = ⟨voice, speech.requestId, speech.audio.length, report.bytesWritten⟩ := by
  cases h with
  | refused houtside => simp [List.getElem?_eq_none houtside]
  | withoutToken _ hfailed => simp [hfailed]
  | withoutSpeech hvoice htoken hfailed => simp [hvoice, htoken, hfailed]
  | unplayed hvoice htoken hspeech hfailed => simp [hvoice, htoken, hspeech, hfailed]
  | died hvoice htoken hspeech hdied => simp [hvoice, htoken, hspeech, hdied]
  | spoken hvoice htoken hspeech hplayed => simp [hvoice, htoken, hspeech, hplayed, eq_comm]

/-- The errors of a message, each with the step that fails: the first one, since the calls before
it were answered. -/
inductive FailsWith (options : Options) (backend : Backend) (command : Command)
    (calls : List Call) : SpeakError → Prop
  | refused (houtside : catalog.length ≤ command.voiceIndex) :
      FailsWith options backend command calls (refusal command)
  | token {key : String} {error : TokenError} (hcall : .fetchToken key ∈ calls)
      (hfailed : (backend.fetchToken key).value = .error error) :
      FailsWith options backend command calls (.token error)
  | synthesis {token : AccessToken} {text : String} {error : SynthesisError}
      (hcall : .synthesize token text ∈ calls)
      (hfailed : (backend.synthesize token text).value = .error error) :
      FailsWith options backend command calls (.synthesis error)
  | playback {format : Audio.Format} {audio : Octets} {error : Audio.PlaybackError}
      (hcall : .play format audio ∈ calls)
      (hfailed : (backend.play format audio).value = .returned (.error error)) :
      FailsWith options backend command calls (.playback error)
  | internal {format : Audio.Format} {audio : Octets} {task : Nat} {message : Option String}
      (hcall : .play format audio ∈ calls)
      (hdied : (backend.play format audio).value = .died task message) :
      FailsWith options backend command calls (.internal (SinkOutcome.obituary task message))

theorem Ends.failsWith {error : SpeakError}
    (h : Ends options backend command calls (.error error)) :
    FailsWith options backend command calls error := by
  cases h with
  | refused houtside => exact .refused houtside
  | withoutToken _ hfailed => exact .token (by simp) hfailed
  | withoutSpeech _ _ hfailed => exact .synthesis (by simp) hfailed
  | unplayed _ _ _ hfailed => exact .playback (by simp) hfailed
  | died _ _ _ hdied => exact .internal (by simp) hdied

theorem Ends.result_eq_error_iff (h : Ends options backend command calls result)
    (error : SpeakError) :
    result = .error error ↔ FailsWith options backend command calls error := by
  constructor
  · rintro rfl
    exact h.failsWith
  · intro hfails
    -- The call that failed was made, so the calls before it were answered: its rule applies.
    cases hfails with
    | refused houtside => exact h.result_unique (.refused houtside)
    | token hcall hfailed =>
        obtain ⟨hinside, rfl⟩ := (h.fetchToken_mem_iff _).mp hcall
        exact h.result_unique (.withoutToken (List.getElem?_eq_getElem hinside) hfailed)
    | synthesis hcall hfailed =>
        obtain ⟨voice, hvoice, htoken, rfl⟩ := (h.synthesize_mem_iff _ _).mp hcall
        exact h.result_unique (.withoutSpeech hvoice htoken hfailed)
    | playback hcall hfailed =>
        obtain ⟨rfl, voice, token, speech, hvoice, htoken, hspeech, rfl⟩ :=
          (h.play_mem_iff _ _).mp hcall
        exact h.result_unique (.unplayed hvoice htoken hspeech hfailed)
    | internal hcall hdied =>
        obtain ⟨rfl, voice, token, speech, hvoice, htoken, hspeech, rfl⟩ :=
          (h.play_mem_iff _ _).mp hcall
        exact h.result_unique (.died hvoice htoken hspeech hdied)

/-! ## What the session depends on -/

/-- A message is spoken by at most three calls, each of which is made only after the one before
it was answered and carries on what that answer gave. It has been spoken when all three
succeeded; otherwise the error is that of the first step that failed. -/
theorem handle_follows_the_steps (options : Options) (backend : Backend) (command : Command) :
    ∃ calls result, (handle options backend command).calls = calls ∧
      (handle options backend command).result = result ∧
      (∃ token text audio, calls <+:
        [.fetchToken command.apiKey, .synthesize token text, .play options.format audio]) ∧
      (calls = [] ↔ catalog.length ≤ command.voiceIndex) ∧
      (∀ token text, .synthesize token text ∈ calls ↔
        ∃ voice, catalog[command.voiceIndex]? = some voice ∧
          (backend.fetchToken command.apiKey).value = .ok token ∧
          text = Ssml.render voice command.message options.escapeText) ∧
      (∀ format audio, .play format audio ∈ calls ↔
        format = options.format ∧ ∃ voice token speech,
          catalog[command.voiceIndex]? = some voice ∧
          (backend.fetchToken command.apiKey).value = .ok token ∧
          (backend.synthesize token
            (Ssml.render voice command.message options.escapeText)).value = .ok speech ∧
          audio = speech.audio) ∧
      (∀ response, result = .ok response ↔
        ∃ voice token speech report, catalog[command.voiceIndex]? = some voice ∧
          (backend.fetchToken command.apiKey).value = .ok token ∧
          (backend.synthesize token
            (Ssml.render voice command.message options.escapeText)).value = .ok speech ∧
          (backend.play options.format speech.audio).value = .returned (.ok report) ∧
          response =
            ⟨voice, speech.requestId, speech.audio.length, report.bytesWritten⟩) ∧
      ∀ error, result = .error error ↔ FailsWith options backend command calls error := by
  have h := ends_handle options backend command
  exact ⟨_, _, rfl, rfl, h.calls_prefix, h.calls_eq_nil_iff, h.synthesize_mem_iff,
    h.play_mem_iff, h.result_eq_ok_iff, h.result_eq_error_iff⟩

end CloudSpeech.Speak
