import CloudSpeech.CommandLine.Arguments
import CloudSpeech.Speak
/-!
# Invocations

What a command line asks for: a listing of the voices, or a message to be spoken.
-/

namespace CloudSpeech.CommandLine

inductive Invocation where
  | listVoices (json : Bool)
  | speak (command : Command)
  deriving DecidableEq, Repr

inductive UsageError where
  | missingArguments
  deriving DecidableEq, Repr

def UsageError.message : UsageError → String
  | missingArguments => "missing arguments"

/-- What a command line asks for.  A listing needs no words; speaking needs all three. -/
def Arguments.invocation (arguments : Arguments) : Except UsageError Invocation :=
  if arguments.listVoices then .ok (.listVoices arguments.json)
  else
    match arguments.apiKey, arguments.langIndex, arguments.message with
    | some apiKey, some voiceIndex, some message => .ok (.speak ⟨apiKey, voiceIndex, message⟩)
    | _, _, _ => .error .missingArguments

end CloudSpeech.CommandLine
