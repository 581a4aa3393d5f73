import CloudSpeech.Proofs.Program.Flow
import CloudSpeech.Proofs.Settings.Loading

/-!
# How an invocation ends

The exit code tells what became of an invocation: it made no sense, it did what was asked for,
or it was attempted in vain. `Refused` and `Answered` are the invocations that are over before
the settings are loaded, and `Spoken` says when a message has been spoken. A message is never
refused once its voice has been found, since the catalog is looked at in the same way twice.
-/

namespace CloudSpeech

open Voice (catalog)

theorem Speak.Ends.isValidation_eq_false {options : Speak.Options} {backend : Backend}
    {command : Command} {calls : List Call} {error : SpeakError}
    (h : Speak.Ends options backend command calls (.error error))
    (hinside : command.voiceIndex < catalog.length) : error.isValidation = false := by
  cases h with
  | refused houtside => exact absurd hinside (Nat.not_lt.mpr houtside)
  | withoutToken _ _ | withoutSpeech _ _ _ | unplayed _ _ _ _ | died _ _ _ _ => rfl

namespace CommandLine

variable {arguments : Arguments}

theorem Arguments.listVoices_of_invocation {json : Bool}
    (h : arguments.invocation = .ok (.listVoices json)) : arguments.listVoices = true := by
  rw [invocation] at h
  split at h
  · assumption
  · split at h <;> cases h

theorem Arguments.missing_of_invocation {error : UsageError}
    (h : arguments.invocation = .error error) :
    arguments.listVoices = false ∧ (arguments.apiKey = none ∨ arguments.langIndex = none ∨
      arguments.message = none) := by
  rw [invocation] at h
  split at h
  · cases h
  · next hlist =>
    refine ⟨Bool.eq_false_iff.mpr hlist, ?_⟩
    cases hkey : arguments.apiKey with
    | none => exact .inl rfl
    | some key =>
        cases hindex : arguments.langIndex with
        | none => exact .inr (.inl rfl)
        | some index =>
            cases hmessage : arguments.message with
            | none => exact .inr (.inr rfl)
            | some message => simp [hkey, hindex, hmessage] at h

theorem Stop.isRequest_iff (stop : Stop) :
    stop.isRequest = true ↔ stop = .help ∨ stop = .version := by
  cases stop <;> simp [isRequest]

end CommandLine

namespace Program

open CommandLine (Arguments Word)

variable {words : List Word} {directory : Settings.Directory}
  {environment : List (String × String)} {make : BackendMaker} {command : Command}
  {configPath : Option String}

/-- The invocations that make no sense: their words cannot be read, one is missing, or there is
no such voice. -/
inductive Refused (words : List Word) : Prop
  | unread {stop : CommandLine.Stop} (hread : Arguments.read words.tail = .error stop)
      (hrefusal : ¬ (stop = .help ∨ stop = .version)) :
      Refused words
  | incomplete {arguments : Arguments} (hread : Arguments.read words.tail = .ok arguments)
      (hlist : arguments.listVoices = false)
      (hmissing : arguments.apiKey = none ∨ arguments.langIndex = none ∨
        arguments.message = none) :
      Refused words
  | outside {arguments : Arguments} {index : Nat}
      (hread : Arguments.read words.tail = .ok arguments)
      (hlist : arguments.listVoices = false)
      (hindex : arguments.langIndex = some index) (houtside : catalog.length ≤ index) :
      Refused words

/-- The invocations that ask for a text. -/
inductive Answered (words : List Word) : Prop
  | asked {stop : CommandLine.Stop} (hread : Arguments.read words.tail = .error stop)
      (hrequest : stop = .help ∨ stop = .version) :
      Answered words
  | listing {arguments : Arguments} (hread : Arguments.read words.tail = .ok arguments)
      (hlist : arguments.listVoices = true) :
      Answered words

/-- The invocations that speak a message in a voice of the catalog, and where they look for
settings. -/
inductive Accepted (words : List Word) : Command → Option String → Prop
  | intro {arguments : Arguments} {command : Command}
      (hread : Arguments.read words.tail = .ok arguments)
      (hcommand : arguments.invocation = .ok (.speak command))
      (hinside : command.voiceIndex < catalog.length) :
      Accepted words command (arguments.configPath.map (·.shown))

/-- A message has been spoken: there are settings and a backend, and all three steps succeed. -/
def Spoken (directory : Settings.Directory) (environment : List (String × String))
    (make : BackendMaker) (command : Command) (configPath : Option String) : Prop :=
  ∃ settings backend voice token speech report,
    Settings.load directory environment configPath = .ok settings ∧
      make settings = .ok backend ∧ catalog[command.voiceIndex]? = some voice ∧
      (backend.fetchToken command.apiKey).value = .ok token ∧
      (backend.synthesize token
        (Ssml.render voice command.message settings.synthesis.escapeText)).value = .ok speech ∧
      (backend.play .speech speech.audio).value = .returned (.ok report)

/-! ## Invocations that are over early -/

theorem accepted_iff :
    Accepted words command configPath ↔ start words = .speak command configPath := by
  rw [start_eq_speak_iff]
  constructor
  · rintro ⟨hread, hcommand, hinside⟩
    exact ⟨_, hread, hcommand, hinside, rfl⟩
  · rintro ⟨arguments, hread, hcommand, hinside, rfl⟩
    exact ⟨hread, hcommand, hinside⟩

theorem Accepted.inside (h : Accepted words command configPath) :
    command.voiceIndex < catalog.length := by
  cases h with
  | intro _ _ hinside => exact hinside

theorem Accepted.unique {command' : Command} {configPath' : Option String}
    (h : Accepted words command configPath) (h' : Accepted words command' configPath') :
    command' = command ∧ configPath' = configPath := by
  cases (accepted_iff.mp h).symm.trans (accepted_iff.mp h')
  exact ⟨rfl, rfl⟩

theorem Refused.endsEarly (h : Refused words) : EndsEarly words := by
  cases h with
  | unread hread _ => exact .unread hread
  | incomplete hread _ hmissing => exact .incomplete hread hmissing
  | outside hread _ hindex houtside => exact .outside hread hindex houtside

theorem Answered.endsEarly (h : Answered words) : EndsEarly words := by
  cases h with
  | asked hread _ => exact .unread hread
  | listing hread hlist => exact .listing hread hlist

theorem Refused.not_answered (h : Refused words) : ¬ Answered words := by
  intro hanswered
  cases h with
  | unread hread hrefusal =>
      cases hanswered with
      | asked hread' hrequest =>
          cases hread.symm.trans hread'
          exact hrefusal hrequest
      | listing hread' _ => cases hread.symm.trans hread'
  | incomplete hread hlist _ | outside hread hlist _ _ =>
      cases hanswered with
      | asked hread' _ => cases hread.symm.trans hread'
      | listing hread' hlist' =>
          cases hread.symm.trans hread'
          cases hlist.symm.trans hlist'

theorem kind_of_over {code : Int} {stdout stderr : String}
    (hover : start words = .over code stdout stderr) :
    (code = exitUsage ∧ Refused words) ∨ (code = exitSuccess ∧ Answered words) := by
  rw [start] at hover
  cases hread : Arguments.read words.tail with
  | error stop =>
      simp only [hread, stopped] at hover
      split at hover
      · next hrequest =>
        cases hover
        exact .inr ⟨rfl, .asked hread (stop.isRequest_iff.mp hrequest)⟩
      · next hrefusal =>
        cases hover
        exact .inl ⟨rfl, .unread hread fun hrequest => hrefusal (stop.isRequest_iff.mpr hrequest)⟩
  | ok arguments =>
      simp only [hread] at hover
      split at hover
      · next hinvocation =>
        cases hover
        exact .inr ⟨rfl, .listing hread (Arguments.listVoices_of_invocation hinvocation)⟩
      · next hinvocation =>
        cases hover
        obtain ⟨hlist, hmissing⟩ := Arguments.missing_of_invocation hinvocation
        exact .inl ⟨rfl, .incomplete hread hlist hmissing⟩
      · next command hinvocation =>
        obtain ⟨hlist, -, hindex, -⟩ := (arguments.invocation_eq_speak_iff command).mp hinvocation
        rcases Nat.lt_or_ge command.voiceIndex catalog.length with hinside | houtside
        · simp only [Voice.lookup_of_lt hinside] at hover
          cases hover
        · simp only [Voice.lookup_of_le houtside] at hover
          cases hover
          exact .inl ⟨rfl, .outside hread hlist hindex houtside⟩

theorem refused_iff_of_over {code : Int} {stdout stderr : String}
    (hover : start words = .over code stdout stderr) : Refused words ↔ code = exitUsage := by
  rcases kind_of_over hover with ⟨rfl, hrefused⟩ | ⟨rfl, hanswered⟩
  · exact iff_of_true hrefused rfl
  · exact iff_of_false (fun hrefused => hrefused.not_answered hanswered) (by decide)

theorem answered_iff_of_over {code : Int} {stdout stderr : String}
    (hover : start words = .over code stdout stderr) : Answered words ↔ code = exitSuccess := by
  rcases kind_of_over hover with ⟨rfl, hrefused⟩ | ⟨rfl, hanswered⟩
  · exact iff_of_false hrefused.not_answered (by decide)
  · exact iff_of_true hanswered rfl

/-! ## Invocations that speak a message -/

/-- The ways in which an invocation that speaks a message ends. -/
inductive Attempt (directory : Settings.Directory) (environment : List (String × String))
    (make : BackendMaker) (command : Command) (configPath : Option String) : Outcome → Prop
  | unsettled {error : Settings.LoadError}
      (hload : Settings.load directory environment configPath = .error error) :
      Attempt directory environment make command configPath
        { code := exitFailure, stderr := errorLine ("Failed to load config: " ++ error.message) }
  | unmade {settings : Settings} {reasons : List String}
      (hload : Settings.load directory environment configPath = .ok settings)
      (hmake : make settings = .error reasons) :
      Attempt directory environment make command configPath
        (Outcome.under
          { code := exitFailure, stderr := errorLine (String.intercalate ": " reasons) }
          environment settings)
  | unspoken {settings : Settings} {backend : Backend} {session : Session Speak.Response}
      {error : SpeakError}
      (hload : Settings.load directory environment configPath = .ok settings)
      (hmake : make settings = .ok backend)
      (hsession : Speak.handle (speakOptions settings) backend command = session)
      (hfailed : session.result = .error error) :
      Attempt directory environment make command configPath
        (Outcome.under
          { code := exitFailure, stderr := errorLine error.chain, events := session.events,
            calls := session.calls }
          environment settings)
  | spoken {settings : Settings} {backend : Backend} {session : Session Speak.Response}
      {response : Speak.Response}
      (hload : Settings.load directory environment configPath = .ok settings)
      (hmake : make settings = .ok backend)
      (hsession : Speak.handle (speakOptions settings) backend command = session)
      (hspoken : session.result = .ok response) :
      Attempt directory environment make command configPath
        (Outcome.under
          { code := exitSuccess, events := session.events ++ [doneEvent response],
            calls := session.calls }
          environment settings)

theorem attempt_run (directory : Settings.Directory) (environment : List (String × String))
    (make : BackendMaker) (h : Accepted words command configPath) :
    Attempt directory environment make command configPath
      (run directory environment make words) := by
  simp only [run, accepted_iff.mp h]
  cases hload : Settings.load directory environment configPath with
  | error error => exact .unsettled hload
  | ok settings =>
      simp only [speakWith]
      cases hmake : make settings with
      | error reasons => exact .unmade hload hmake
      | ok backend =>
          dsimp only
          rw [conclude]
          cases hresult : (Speak.handle (speakOptions settings) backend command).result with
          | ok response => exact .spoken hload hmake rfl hresult
          | error error =>
              -- The voice has been found before, so the command is not at fault.
              have hends := Speak.ends_handle (speakOptions settings) backend command
              rw [hresult] at hends
              simp only [hends.isValidation_eq_false h.inside, Bool.false_eq_true, if_false]
              exact .unspoken hload hmake rfl hresult

namespace Attempt

variable {outcome : Outcome}

theorem code_eq_or (h : Attempt directory environment make command configPath outcome) :
    outcome.code = exitSuccess ∨ outcome.code = exitFailure := by
  cases h with
  | unsettled _ | unmade _ _ | unspoken _ _ _ _ => exact .inr rfl
  | spoken _ _ _ _ => exact .inl rfl

theorem code_ne_usage (h : Attempt directory environment make command configPath outcome) :
    outcome.code ≠ exitUsage := by
  rcases h.code_eq_or with hcode | hcode
  · rw [hcode]; decide
  · rw [hcode]; decide

theorem stdout_eq (h : Attempt directory environment make command configPath outcome) :
    outcome.stdout = "" := by
  cases h with
  | unsettled _ | unmade _ _ | unspoken _ _ _ _ | spoken _ _ _ _ => rfl

theorem madeFor_eq_some_iff (h : Attempt directory environment make command configPath outcome)
    (settings : Settings) :
    outcome.madeFor = some settings ↔
      Settings.load directory environment configPath = .ok settings := by
  cases h with
  | unsettled hload => simp [hload]
  | unmade hload _ | unspoken hload _ _ _ | spoken hload _ _ _ => simp [hload, Outcome.under]

theorem code_eq_success_iff (h : Attempt directory environment make command configPath outcome) :
    outcome.code = exitSuccess ↔ Spoken directory environment make command configPath := by
  have hdiffer : exitFailure ≠ exitSuccess := by decide
  cases h with
  | unsettled hload => exact iff_of_false hdiffer (by simp [Spoken, hload])
  | unmade hload hmake => exact iff_of_false hdiffer (by simp [Spoken, hload, hmake])
  | @unspoken settings backend _ _ hload hmake hsession hfailed =>
      refine iff_of_false hdiffer ?_
      rintro ⟨_, _, voice, token, speech, report, hload', hmake', hspoken⟩
      cases hload.symm.trans hload'
      cases hmake.symm.trans hmake'
      have hends := Speak.ends_handle (speakOptions settings) backend command
      obtain ⟨hvoice, htoken, hspeech, hplayed⟩ := hspoken
      have hresult := (hends.result_eq_ok_iff _).mpr
        ⟨voice, token, speech, report, hvoice, htoken, hspeech, hplayed, rfl⟩
      rw [hsession, hfailed] at hresult
      cases hresult
  | @spoken settings backend _ response hload hmake hsession hspoken =>
      refine iff_of_true rfl ?_
      have hends := Speak.ends_handle (speakOptions settings) backend command
      rw [hsession] at hends
      obtain ⟨voice, token, speech, report, hvoice, htoken, hspeech, hplayed, -⟩ :=
        (hends.result_eq_ok_iff response).mp hspoken
      exact ⟨settings, backend, voice, token, speech, report, hload, hmake, hvoice, htoken,
        hspeech, hplayed⟩

end Attempt

theorem run_of_over {code : Int} {stdout stderr : String}
    (hover : start words = .over code stdout stderr) :
    run directory environment make words = { code, stdout, stderr } := by
  simp only [run, hover]

theorem not_accepted_of_over {code : Int} {stdout stderr : String}
    (hover : start words = .over code stdout stderr) : ¬ Accepted words command configPath := by
  intro haccepted
  cases hover.symm.trans (accepted_iff.mp haccepted)

theorem run_code_eq_usage_iff :
    (run directory environment make words).code = exitUsage ↔ Refused words := by
  rcases hstart : start words with ⟨code, stdout, stderr⟩ | ⟨command, configPath⟩
  · rw [run_of_over hstart, refused_iff_of_over hstart]
  · have hattempt := attempt_run directory environment make (accepted_iff.mpr hstart)
    exact iff_of_false hattempt.code_ne_usage fun hrefused =>
      hrefused.endsEarly.start_ne_speak command configPath hstart

theorem run_code_eq_success_iff :
    (run directory environment make words).code = exitSuccess ↔
      Answered words ∨ ∃ command configPath, Accepted words command configPath ∧
        Spoken directory environment make command configPath := by
  rcases hstart : start words with ⟨code, stdout, stderr⟩ | ⟨command, configPath⟩
  · rw [run_of_over hstart, answered_iff_of_over hstart]
    simp [not_accepted_of_over hstart]
  · have haccepted := accepted_iff.mpr hstart
    rw [(attempt_run directory environment make haccepted).code_eq_success_iff]
    constructor
    · exact fun hspoken => .inr ⟨command, configPath, haccepted, hspoken⟩
    · rintro (hanswered | ⟨command', configPath', haccepted', hspoken⟩)
      · exact absurd hstart (hanswered.endsEarly.start_ne_speak command configPath)
      · obtain ⟨rfl, rfl⟩ := haccepted.unique haccepted'
        exact hspoken

theorem run_madeFor_eq_some_iff (settings : Settings) :
    (run directory environment make words).madeFor = some settings ↔
      ∃ command configPath, Accepted words command configPath ∧
        Settings.load directory environment configPath = .ok settings := by
  rcases hstart : start words with ⟨code, stdout, stderr⟩ | ⟨command, configPath⟩
  · rw [run_of_over hstart]
    simp [not_accepted_of_over hstart]
  · have haccepted := accepted_iff.mpr hstart
    rw [(attempt_run directory environment make haccepted).madeFor_eq_some_iff]
    constructor
    · exact fun hload => ⟨command, configPath, haccepted, hload⟩
    · rintro ⟨command', configPath', haccepted', hload⟩
      obtain ⟨rfl, rfl⟩ := haccepted.unique haccepted'
      exact hload

theorem run_code_eq_or :
    (run directory environment make words).code = exitUsage ∨
      (run directory environment make words).code = exitSuccess ∨
      (run directory environment make words).code = exitFailure := by
  rcases hstart : start words with ⟨code, stdout, stderr⟩ | ⟨command, configPath⟩
  · rw [run_of_over hstart]
    rcases kind_of_over hstart with ⟨rfl, -⟩ | ⟨rfl, -⟩
    · exact .inl rfl
    · exact .inr (.inl rfl)
  · exact .inr (attempt_run directory environment make (accepted_iff.mpr hstart)).code_eq_or

theorem run_congr {make' : BackendMaker}
    (hsame : ∀ settings, (run directory environment make words).madeFor = some settings →
      make' settings = make settings) :
    run directory environment make' words = run directory environment make words := by
  rcases hstart : start words with ⟨code, stdout, stderr⟩ | ⟨command, configPath⟩
  · simp only [run, hstart]
  · have hattempt := attempt_run directory environment make (accepted_iff.mpr hstart)
    simp only [run, hstart]
    cases hload : Settings.load directory environment configPath with
    | error error => rfl
    | ok settings =>
        have hmade := hsame settings ((hattempt.madeFor_eq_some_iff settings).mpr hload)
        simp only [speakWith, hmade]

/-! ## All invocations -/

/-- The exit code says whether an invocation makes no sense, did what it asked for, or was
attempted in vain. A message in a voice of the catalog is never refused and nothing is printed
about it; a backend is made for it only with settings that have been loaded and make sense, and
for no others. -/
theorem run_exits (directory : Settings.Directory) (environment : List (String × String))
    (make : BackendMaker) (words : List Word) :
    ∃ outcome, run directory environment make words = outcome ∧
      (outcome.code = -1 ↔ Refused words) ∧
      (outcome.code = 0 ↔ Answered words ∨ ∃ command configPath,
        Accepted words command configPath ∧
          Spoken directory environment make command configPath) ∧
      (outcome.code = -1 ∨ outcome.code = 0 ∨ outcome.code = 1) ∧
      (∀ command configPath, Accepted words command configPath →
        outcome.code ≠ -1 ∧ outcome.stdout = "") ∧
      (∀ settings, outcome.madeFor = some settings ↔ ∃ command configPath,
        Accepted words command configPath ∧
          Settings.load directory environment configPath = .ok settings) ∧
      (∀ settings, outcome.madeFor = some settings → settings.token.url ≠ "" ∧
        settings.synthesis.url ≠ "" ∧ settings.synthesis.outputFormat ≠ "" ∧
        0 < settings.token.timeoutSecs ∧ 0 < settings.synthesis.timeoutSecs) ∧
      ∀ make', (∀ settings, outcome.madeFor = some settings → make' settings = make settings) →
        run directory environment make' words = outcome := by
  refine ⟨_, rfl, run_code_eq_usage_iff, run_code_eq_success_iff, run_code_eq_or, ?_,
    run_madeFor_eq_some_iff, ?_, fun make' hsame => run_congr hsame⟩
  · intro command configPath haccepted
    have hattempt := attempt_run directory environment make haccepted
    exact ⟨hattempt.code_ne_usage, hattempt.stdout_eq⟩
  · intro settings hmade
    obtain ⟨command, configPath, -, hload⟩ := (run_madeFor_eq_some_iff settings).mp hmade
    have hvalid := Settings.valid_of_load hload
    exact ⟨hvalid.tokenUrl, hvalid.synthesisUrl, hvalid.outputFormat,
      UInt64.pos_iff_ne_zero.mpr hvalid.tokenTimeout,
      UInt64.pos_iff_ne_zero.mpr hvalid.synthesisTimeout⟩

end Program

end CloudSpeech
