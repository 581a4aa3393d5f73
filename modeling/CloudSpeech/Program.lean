import CloudSpeech.CommandLine.Invocation
import CloudSpeech.CommandLine.Report
import CloudSpeech.Log.Filter
import CloudSpeech.Settings.Load
import CloudSpeech.Speak
import CloudSpeech.Text.Blank
import CloudSpeech.Voice.Listing
/-!
# The program

An invocation goes through gates: its words are read, a listing or a usage error ends it at once,
and so does a voice outside the catalog.  Only then are the settings loaded, and the message is
spoken by what is made for them.  The outcome holds the exit code, what is printed, the events and
what was asked for on the way.
-/

namespace CloudSpeech

namespace Program

def exitSuccess : Int := 0

/-- The exit code of an invocation that was attempted in vain. -/
def exitFailure : Int := 1

/-- The exit code of an invocation that makes no sense. -/
def exitUsage : Int := -1

/-- All that comes of an invocation. -/
structure Outcome where
  code : Int
  stdout : String := ""
  stderr : String := ""
  events : List Log.Event := []
  /-- The settings for which a backend was made, if it came to that. -/
  madeFor : Option Settings := none
  calls : List Call := []
  deriving DecidableEq

/-- The way a backend is made for settings.  If none is, the reasons are given, the most general
first. -/
abbrev BackendMaker := Settings → Except (List String) Backend

def line (text : String) : String := text ++ "\n"

def errorLine (message : String) : String := line ("Error: " ++ message)

/-- What an invocation comes to before anything but its words is looked at. -/
inductive Start where
  /-- It is over. -/
  | over (code : Int) (stdout stderr : String)
  /-- A message is to be spoken, with settings from a file or from where they usually are. -/
  | speak (command : Command) (configPath : Option String)

/-- The end of an invocation whose words are not all read.  A text that was asked for is printed;
a refusal is reported on a line. -/
def stopped (name : String) (stop : CommandLine.Stop) : Start :=
  if stop.isRequest then .over exitSuccess (stop.message name) ""
  else .over exitUsage "" (line (stop.message name))

/-- What the words of an invocation come to. -/
def start (words : List CommandLine.Word) : Start :=
  match CommandLine.Arguments.read words.tail with
  | .error stop => stopped (CommandLine.programName words.head?) stop
  | .ok arguments =>
      match arguments.invocation with
      | .ok (.listVoices json) => .over exitSuccess (line (Text.trimEnd (Voice.listing json))) ""
      | .error .missingArguments =>
          .over exitUsage (line (CommandLine.usage (CommandLine.shownProgram words.head?))) ""
      | .ok (.speak command) =>
          match Voice.lookup command.voiceIndex with
          | .error error => .over exitUsage (line error.message) ""
          | .ok _ => .speak command (arguments.configPath.map (·.shown))

def doneEvent (response : Speak.Response) : Log.Event :=
  ⟨.info, .program, "Done", [
    ("voice", .text response.voice.label),
    ("request_id", .text response.requestId),
    ("bytes_played", .number response.bytesPlayed)]⟩

def settingsEvents (settings : Settings) : List Log.Event :=
  settings.lines.map fun text => ⟨.debug, .settings, text, []⟩

def speakOptions (settings : Settings) : Speak.Options where
  escapeText := settings.synthesis.escapeText

def conclude (session : Session Speak.Response) : Outcome :=
  match session.result with
  | .ok response =>
      { code := exitSuccess, events := session.events ++ [doneEvent response],
        calls := session.calls }
  | .error error =>
      if error.isValidation then
        { code := exitUsage, stdout := line error.message, events := session.events,
          calls := session.calls }
      else
        { code := exitFailure, stderr := errorLine error.chain, events := session.events,
          calls := session.calls }

/-- Speaks a message through the backend that is made for settings. -/
def speakWith (settings : Settings) (make : BackendMaker) (command : Command) : Outcome :=
  match make settings with
  | .error reasons =>
      { code := exitFailure, stderr := errorLine (String.intercalate ": " reasons) }
  | .ok backend => conclude (Speak.handle (speakOptions settings) backend command)

/-- What is printed about a log filter that holds something else than directives. -/
def filterWarnings (environment : List (String × String)) (settings : Settings) : String :=
  String.join ((Log.Filter.choose environment settings.log.level).2.map line)

/-- Runs an invocation up to its end. -/
def run (directory : Settings.Directory) (environment : List (String × String))
    (make : BackendMaker) (words : List CommandLine.Word) : Outcome :=
  match start words with
  | .over code stdout stderr => { code, stdout, stderr }
  | .speak command configPath =>
      match Settings.load directory environment configPath with
      | .error error =>
          { code := exitFailure, stderr := errorLine ("Failed to load config: " ++ error.message) }
      | .ok settings =>
          let outcome := speakWith settings make command
          { outcome with
            stderr := filterWarnings environment settings ++ outcome.stderr
            events := settingsEvents settings ++ outcome.events
            madeFor := some settings }

def Outcome.logged (outcome : Outcome) (environment : List (String × String)) : List Log.Event :=
  match outcome.madeFor with
  | none => []
  | some settings =>
      outcome.events.filter (Log.Filter.choose environment settings.log.level).1.admits

end Program

end CloudSpeech
