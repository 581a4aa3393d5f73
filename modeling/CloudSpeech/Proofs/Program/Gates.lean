import CloudSpeech.Program
import CloudSpeech.Program.World
import CloudSpeech.Settings.Folder

/-!
# The gates before the settings

An invocation passes gates before its settings are loaded: its words have to be read, it must
not ask for a listing, no word may be missing, and the voice has to be in the catalog.
`EndsEarly` lists the invocations that are stopped by one of them. They are exactly those that
are over before anything but the words is looked at, so nothing else makes a difference.
-/

namespace CloudSpeech

open Voice (catalog)

/-- A message is spoken where no listing is asked for and no word is missing. -/
theorem CommandLine.Arguments.invocation_eq_speak_iff (arguments : Arguments)
    (command : Command) :
    arguments.invocation = .ok (.speak command) ↔
      arguments.listVoices = false ∧ arguments.apiKey = some command.apiKey ∧
        arguments.langIndex = some command.voiceIndex ∧
        arguments.message = some command.message := by
  obtain ⟨apiKey, voiceIndex, message⟩ := command
  rw [invocation]
  cases arguments.listVoices with
  | true => simp
  | false =>
      cases arguments.apiKey <;> cases arguments.langIndex <;> cases arguments.message <;> simp

namespace Program

open CommandLine (Arguments Word)

variable {words : List Word}

/-- The words that speak a message in a voice of the catalog. -/
theorem start_eq_speak_iff (command : Command) (configPath : Option String) :
    start words = .speak command configPath ↔
      ∃ arguments, Arguments.read words.tail = .ok arguments ∧
        arguments.invocation = .ok (.speak command) ∧
        command.voiceIndex < catalog.length ∧
        arguments.configPath.map (·.shown) = configPath := by
  rw [start]
  cases hread : Arguments.read words.tail with
  | error stop => cases hrequest : stop.isRequest <;> simp [stopped, hrequest]
  | ok arguments =>
      simp only [Except.ok.injEq, exists_eq_left']
      cases arguments.invocation with
      | error error => simp
      | ok invocation =>
          cases invocation with
          | listVoices json => simp
          | speak asked =>
              rcases Nat.lt_or_ge asked.voiceIndex catalog.length with hinside | houtside
              · simp only [Voice.lookup_of_lt hinside, Start.speak.injEq, Except.ok.injEq,
                  CommandLine.Invocation.speak.injEq]
                constructor
                · rintro ⟨rfl, hpath⟩
                  exact ⟨rfl, hinside, hpath⟩
                · rintro ⟨rfl, -, hpath⟩
                  exact ⟨rfl, hpath⟩
              · simp only [Voice.lookup_of_le houtside, Except.ok.injEq,
                  CommandLine.Invocation.speak.injEq, reduceCtorEq, false_iff]
                rintro ⟨rfl, hinside, -⟩
                exact absurd houtside (Nat.not_le.mpr hinside)

/-- The invocations that one of the gates stops. -/
inductive EndsEarly (words : List Word) : Prop
  | unread {stop : CommandLine.Stop} (hread : Arguments.read words.tail = .error stop) :
      EndsEarly words
  | listing {arguments : Arguments} (hread : Arguments.read words.tail = .ok arguments)
      (hlist : arguments.listVoices = true) :
      EndsEarly words
  | incomplete {arguments : Arguments} (hread : Arguments.read words.tail = .ok arguments)
      (hmissing : arguments.apiKey = none ∨ arguments.langIndex = none ∨
        arguments.message = none) :
      EndsEarly words
  | outside {arguments : Arguments} {index : Nat}
      (hread : Arguments.read words.tail = .ok arguments)
      (hindex : arguments.langIndex = some index) (houtside : catalog.length ≤ index) :
      EndsEarly words

theorem EndsEarly.start_ne_speak (h : EndsEarly words) (command : Command)
    (configPath : Option String) : start words ≠ .speak command configPath := by
  intro hstart
  obtain ⟨arguments, hread, hcommand, hinside, -⟩ := (start_eq_speak_iff ..).mp hstart
  obtain ⟨hlists, hkey, hlang, hmessage⟩ := (arguments.invocation_eq_speak_iff _).mp hcommand
  cases h with
  | unread hread' =>
      rw [hread] at hread'
      cases hread'
  | listing hread' hlist =>
      cases hread.symm.trans hread'
      rw [hlists] at hlist
      cases hlist
  | incomplete hread' hmissing =>
      cases hread.symm.trans hread'
      rcases hmissing with hnone | hnone | hnone
      · exact Option.some_ne_none _ (hkey.symm.trans hnone)
      · exact Option.some_ne_none _ (hlang.symm.trans hnone)
      · exact Option.some_ne_none _ (hmessage.symm.trans hnone)
  | outside hread' hindex houtside =>
      cases hread.symm.trans hread'
      cases hlang.symm.trans hindex
      exact absurd houtside (Nat.not_le.mpr hinside)

theorem exists_speak_of_not_endsEarly (h : ¬ EndsEarly words) :
    ∃ command configPath, start words = .speak command configPath := by
  cases hread : Arguments.read words.tail with
  | error stop => exact absurd (.unread hread) h
  | ok arguments =>
      have hlists : arguments.listVoices = false :=
        Bool.eq_false_iff.mpr fun hlist => h (.listing hread hlist)
      cases hkey : arguments.apiKey with
      | none => exact absurd (.incomplete hread (.inl hkey)) h
      | some key =>
          cases hindex : arguments.langIndex with
          | none => exact absurd (.incomplete hread (.inr (.inl hindex))) h
          | some index =>
              cases hmessage : arguments.message with
              | none => exact absurd (.incomplete hread (.inr (.inr hmessage))) h
              | some message =>
                  have hinside : index < catalog.length :=
                    Nat.lt_of_not_le fun houtside => h (.outside hread hindex houtside)
                  exact ⟨⟨key, index, message⟩, _, (start_eq_speak_iff ..).mpr
                    ⟨arguments, hread, (arguments.invocation_eq_speak_iff _).mpr
                      ⟨hlists, hkey, hindex, hmessage⟩, hinside, rfl⟩⟩

/-- The gates are all there is before the settings. -/
theorem endsEarly_iff :
    EndsEarly words ↔ ∃ code stdout stderr, start words = .over code stdout stderr := by
  constructor
  · intro h
    rcases hstart : start words with ⟨code, stdout, stderr⟩ | ⟨command, configPath⟩
    · exact ⟨code, stdout, stderr, rfl⟩
    · exact absurd hstart (h.start_ne_speak command configPath)
  · rintro ⟨code, stdout, stderr, hover⟩
    refine Classical.byContradiction fun hlate => ?_
    obtain ⟨command, configPath, hstart⟩ := exists_speak_of_not_endsEarly hlate
    rw [hover] at hstart
    cases hstart

/-- An invocation that a gate stops comes to the same whatever files there are, whatever the
environment says and whatever would make a backend. None is made, nothing is logged, no request
is sent and no device is touched. -/
theorem run_of_endsEarly (hearly : EndsEarly words) (directory directory' : Settings.Directory)
    (environment environment' : List (String × String)) (make make' : BackendMaker) :
    ∃ outcome : Outcome, run directory environment make words = outcome ∧
      run directory' environment' make' words = outcome ∧
      outcome.madeFor = none ∧ outcome.calls = [] ∧
      outcome.logged environment = [] ∧ outcome.logged environment' = [] ∧
      ∀ (world : World) (settings : Settings), requests world settings outcome.calls = [] ∧
        deviceUse world settings outcome.calls = {} := by
  obtain ⟨code, stdout, stderr, hover⟩ := endsEarly_iff.mp hearly
  refine ⟨{ code, stdout, stderr }, ?_, ?_, rfl, rfl, rfl, rfl, fun world settings => ⟨rfl, rfl⟩⟩
  · simp only [run, hover]
  · simp only [run, hover]

/-- A voice outside the catalog is refused with a broken settings file as it is without one. -/
theorem run_of_voice_outside :
    let words : List Word :=
      [.text "bing-tts", .text "--config", .text "own.toml", .text "key", .text "29", .text "hi"]
    let broken : Settings.Folder := ⟨"/work", [("own.toml", Octets.ofText "= nothing")]⟩
    let empty : Settings.Folder := ⟨"/work", []⟩
    let make : BackendMaker := fun _ => .error ["no backend"]
    let make' : BackendMaker := fun settings =>
      .ok (backend ⟨.builtIn, fun _ => .stalled, fun _ => .stalled, none, ""⟩ settings)
    EndsEarly words ∧ ∃ outcome : Outcome,
      run broken.toDirectory [("BING_TTS_LOG__LEVEL", "debug")] make words = outcome ∧
        run empty.toDirectory [] make' words = outcome ∧
        outcome.madeFor = none ∧ outcome.calls = [] := by
  intro words broken empty make make'
  have hread : Arguments.read words.tail = .ok
      ⟨some "key", some 29, some "hi", [], false, false, some (.text "own.toml")⟩ := by
    rfl
  have hearly : EndsEarly words := .outside hread rfl (by decide)
  obtain ⟨outcome, hrun, hrun', hmade, hcalls, -⟩ := run_of_endsEarly hearly broken.toDirectory
    empty.toDirectory [("BING_TTS_LOG__LEVEL", "debug")] [] make make'
  exact ⟨hearly, outcome, hrun, hrun', hmade, hcalls⟩

end Program

end CloudSpeech
