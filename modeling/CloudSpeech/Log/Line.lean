import CloudSpeech.Json.Value
import CloudSpeech.Log
/-!
# Log lines

An event as it stands in the log, on one line: for people, or as a JSON object.
-/

namespace CloudSpeech.Log

def FieldValue.shown : FieldValue → String
  | number value => toString value
  | text value => value

def FieldValue.json : FieldValue → String
  | number value => toString value
  | text value => Json.stringText value

/-- An object on one line, whose values are given as their texts. -/
def objectLine (members : List (String × String)) : String :=
  let member : String × String → String := fun (key, value) => Json.stringText key ++ ":" ++ value
  "\x7b" ++ String.intercalate "," (members.map member) ++ "\x7d"

namespace Event

def line (event : Event) : String :=
  event.level.name ++ " " ++ event.source.path ++ ": " ++ event.message
    ++ String.join (event.fields.map fun (name, value) => " " ++ name ++ "=" ++ value.shown)

/-- An event as an object.  The message is one of its fields. -/
def jsonLine (event : Event) : String :=
  objectLine [
    ("level", Json.stringText event.level.name),
    ("fields", objectLine (("message", Json.stringText event.message) ::
      event.fields.map fun (name, value) => (name, value.json))),
    ("target", Json.stringText event.source.path)]

end Event

end CloudSpeech.Log
