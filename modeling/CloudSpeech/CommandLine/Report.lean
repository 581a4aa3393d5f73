import CloudSpeech.CommandLine.Arguments
import CloudSpeech.Path
/-!
# Reports on a command line

The texts that answer a command line without speaking: the usage, the help and version texts, and
the reasons why a command line is refused.
-/

namespace CloudSpeech.CommandLine

/-- The name of the program where the command line does not give one. -/
def defaultProgram : String := "bing-tts"

/-- The name of the program in the usage line: the file's name, if it is a text. -/
def programName (program : Option Word) : String :=
  match program with
  | some (.text path) => (Path.fileName? path).getD defaultProgram
  | _ => defaultProgram

def shownProgram (program : Option Word) : String :=
  match program with
  | some word => word.shown
  | none => defaultProgram

def usage (program : String) : String :=
  "Play TTS:\n\nUsage: " ++ program ++ " api_key langcode message"

def helpText (name : String) : String :=
  "Synthesize a message with a cloud TTS voice and play it\n\n"
    ++ "Usage: " ++ name ++ " [OPTIONS] [API_KEY] [LANG_INDEX] [MESSAGE]\n\n"
    ++ "Arguments:\n"
    ++ "  [API_KEY]     Subscription key for the token service\n"
    ++ "  [LANG_INDEX]  Voice index (see --list-voices)\n"
    ++ "  [MESSAGE]     Message to speak (use quotes)\n\n"
    ++ "Options:\n"
    ++ "      --list-voices    List supported voices and exit\n"
    ++ "      --json           Emit JSON for --list-voices\n"
    ++ "      --config <FILE>  Use an explicit config file\n"
    ++ "  -h, --help           Print help\n"
    ++ "  -V, --version        Print version\n"

def versionText : String := "bing-tts 0.1.0\n"

namespace Stop

/-- Whether the command line asked for the text that answers it. -/
def isRequest : Stop → Bool
  | help => true
  | version => true
  | _ => false

/-- The text that answers a command line.  A refusal is one line, without its newline. -/
def message (name : String) : Stop → String
  | help => helpText name
  | version => versionText
  | unknownArgument shown => "error: unexpected argument '" ++ shown ++ "' found"
  | unexpectedValue value flag =>
      "error: unexpected value '" ++ value ++ "' for '" ++ flag ++ "' found; no more were expected"
  | repeated option => "error: the argument '" ++ option ++ "' cannot be used multiple times"
  | missingValue => "error: a value is required for '--config <FILE>' but none was supplied"
  | missingCompanion => "error: the following required arguments were not provided:"
  | invalidIndex shown fault =>
      "error: invalid value '" ++ shown ++ "' for '[LANG_INDEX]': " ++ fault.message
  | notText => "error: invalid UTF-8 was detected in one or more arguments"

end Stop

end CloudSpeech.CommandLine
