/-!
# Settings

What the program is told beside its command line: the two services, playback and the log.  Every
setting has a default.
-/

namespace CloudSpeech

structure TokenSettings where
  url : String := "https://api.cognitive.microsoft.com/sts/v1.0/issueToken"
  timeoutSecs : UInt64 := 30
  deriving DecidableEq, Repr

structure SynthesisSettings where
  url : String := "https://speech.platform.bing.com/synthesize"
  timeoutSecs : UInt64 := 60
  /-- The name of the audio format that is asked for. -/
  outputFormat : String := "riff-16khz-16bit-mono-pcm"
  appId : String := "07D3234E49CE426DAA29772419F436CA"
  clientId : String := "1ECFAE91408841A480F00935DC390960"
  userAgent : String := "TTSForPython"
  escapeText : Bool := true
  deriving DecidableEq, Repr

structure PlaybackSettings where
  /-- The time granted beyond the length of the sound, in milliseconds. -/
  graceMs : UInt64 := 2000
  /-- The margin after the last sample, in milliseconds. -/
  tailMs : UInt64 := 200
  deriving DecidableEq, Repr

structure LogSettings where
  level : String := "warn"
  json : Bool := false
  deriving DecidableEq, Repr

structure Settings where
  token : TokenSettings := {}
  synthesis : SynthesisSettings := {}
  playback : PlaybackSettings := {}
  log : LogSettings := {}
  deriving DecidableEq, Repr

namespace Settings

/-- Why settings make no sense. -/
inductive Invalid where
  | emptyTokenUrl
  | emptySynthesisUrl
  | zeroTimeout
  | emptyOutputFormat
  deriving DecidableEq, Repr

def Invalid.message : Invalid → String
  | emptyTokenUrl => "Token URL cannot be empty"
  | emptySynthesisUrl => "TTS URL cannot be empty"
  | zeroTimeout => "Request timeout cannot be 0"
  | emptyOutputFormat => "TTS output format cannot be empty"

/-- The first reason why settings make no sense, if there is one. -/
def invalid? (settings : Settings) : Option Invalid :=
  if settings.token.url = "" then some .emptyTokenUrl
  else if settings.synthesis.url = "" then some .emptySynthesisUrl
  else if settings.token.timeoutSecs = 0 ∨ settings.synthesis.timeoutSecs = 0 then
    some .zeroTimeout
  else if settings.synthesis.outputFormat = "" then some .emptyOutputFormat
  else none

/-- Settings as they are shown, line by line. -/
def lines (settings : Settings) : List String := [
  "=== Application Configuration ===",
  "Token URL: " ++ settings.token.url,
  "Token Timeout: " ++ toString settings.token.timeoutSecs.toNat ++ "s",
  "TTS URL: " ++ settings.synthesis.url,
  "TTS Timeout: " ++ toString settings.synthesis.timeoutSecs.toNat ++ "s",
  "TTS Output Format: " ++ settings.synthesis.outputFormat,
  "Escape Text: " ++ (if settings.synthesis.escapeText then "true" else "false"),
  "Playback Grace: " ++ toString settings.playback.graceMs.toNat ++ "ms",
  "Log Level: " ++ settings.log.level,
  "================================="]

end Settings

end CloudSpeech
