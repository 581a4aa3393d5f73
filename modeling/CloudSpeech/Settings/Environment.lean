import CloudSpeech.Settings.Entry
import CloudSpeech.Decimal.Real
import CloudSpeech.Decimal.Whole
/-!
# Settings in the environment

A variable whose name begins with `BING_TTS_`, in any case, gives a setting: two underscores in
the rest of the name separate the steps of its path.  A value that reads as a truth value or a
number is taken as one.
-/

namespace CloudSpeech.Settings

namespace Environment

/-- What entries of the environment name as their source. -/
def origin : String := "the environment"

/-- How the names of the variables begin, in small letters. -/
def namePrefix : String := "bing_tts_"

/-- Puts a dot in the place of every two underscores. -/
def withDots : List Char → List Char
  | '_' :: '_' :: rest => '.' :: withDots rest
  | c :: rest => c :: withDots rest
  | [] => []

/-- The key that a variable gives, if its name begins as it has to. -/
def key? (name : String) : Option String :=
  let chars := (Text.lowercase name).toList
  if namePrefix.toList.isPrefixOf chars then
    some (String.ofList (withDots (chars.drop namePrefix.length)))
  else none

/-- What the value of a variable is taken as. -/
def scalar (value : String) : Scalar :=
  match Text.lowercase value with
  | "true" => .bool true
  | "false" => .bool false
  | _ =>
      match Decimal.readSigned? value with
      | some number => .integer number
      | none =>
          match Decimal.readReal? value with
          | some number => .real number
          | none => .text value

def entries (environment : List (String × String)) : Entries :=
  environment.filterMap fun (name, value) =>
    (key? name).map fun key => (key, .scalar (some origin) (scalar value))

end Environment

end CloudSpeech.Settings
