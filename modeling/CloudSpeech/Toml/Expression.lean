import CloudSpeech.Toml.Quoted
import CloudSpeech.Toml.Number
import CloudSpeech.Toml.Table
/-!
# Keys and values in TOML

Reading paths of keys and values.  Arrays may run over several lines and end in a comma, tables
between braces may not.  Arrays and tables between braces are nested to a limited depth, and a
path has a limited number of keys.
-/

namespace CloudSpeech.Toml

/-- How deep arrays and tables between braces may be nested. -/
def maxDepth : Nat := 79

/-- How many keys a path may have. -/
def maxKeys : Nat := 79

def isBare (c : Char) : Bool := c.isAlphanum || c = '-' || c = '_'

def readKey (chars : List Char) : Option (String × List Char) :=
  match readQuoted chars with
  | some found => some found
  | none =>
      let bare := chars.takeWhile isBare
      if bare = [] then none else some (String.ofList bare, chars.dropWhile isBare)

/-- Keys with dots between them, and spaces around keys and dots. -/
def readKeys (chars : List Char) : Option (List String × List Char) :=
  match readKey (skipSpace chars) with
  | none => none
  | some (key, rest) =>
      match skipSpace rest with
      | '.' :: rest =>
          if rest.length < chars.length then
            (readKeys rest).map fun (keys, rest) => (key :: keys, rest)
          else none
      | rest => some ([key], rest)
termination_by chars.length

/-- A path of keys that is not too long. -/
def readPath (chars : List Char) : Option (List String × List Char) :=
  match readKeys chars with
  | some (keys, rest) => if keys.length ≤ maxKeys then some (keys, rest) else none
  | none => none

/-- A word that denotes a truth value. -/
def readBool : List Char → Option (Bool × List Char)
  | 't' :: 'r' :: 'u' :: 'e' :: rest => some (true, rest)
  | 'f' :: 'a' :: 'l' :: 's' :: 'e' :: rest => some (false, rest)
  | _ => none

/-- A value that holds no other values. -/
def readScalar (chars : List Char) : Option (Value × List Char) :=
  match readText chars with
  | some (content, rest) => some (.string content, rest)
  | none =>
      match readMoment chars with
      | some (moment, rest) => some (.moment moment, rest)
      | none =>
          match readNumber chars with
          | some (.integer value, rest) => some (.integer value, rest)
          | some (.real value, rest) => some (.real value, rest)
          | none => (readBool chars).map fun (value, rest) => (.bool value, rest)

/-- The items of an array after its opening bracket or a comma, up to the closing bracket. -/
def readItems (readItem : Reader Value) (chars : List Char) : Option (List Value × List Char) :=
  match skipGap chars with
  | ']' :: rest => some ([], rest)
  | start =>
      match readItem start with
      | none => none
      | some (item, rest) =>
          match skipGap rest with
          | ']' :: rest => some ([item], rest)
          | ',' :: rest =>
              if rest.length < chars.length then
                (readItems readItem rest).map fun (items, rest) => (item :: items, rest)
              else none
          | _ => none
termination_by chars.length

/-- A path of keys, an equals sign and a value. -/
def readAssignment (readItem : Reader Value) (chars : List Char) :
    Option ((List String × Value) × List Char) :=
  match readPath chars with
  | some (path, '=' :: rest) =>
      (readItem (skipSpace rest)).map fun (value, rest) => ((path, value), rest)
  | _ => none

/-- The assignments after the opening brace or a comma, up to the closing brace. -/
def readAssignments (readItem : Reader Value) (chars : List Char) :
    Option (List (List String × Value) × List Char) :=
  match readAssignment readItem chars with
  | none => none
  | some (assignment, rest) =>
      match skipSpace rest with
      | '\x7d' :: rest => some ([assignment], rest)
      | ',' :: rest =>
          if rest.length < chars.length then
            (readAssignments readItem rest).map fun (more, rest) => (assignment :: more, rest)
          else none
      | _ => none
termination_by chars.length

/-- A table after its opening brace. -/
def readInlineTable (readItem : Reader Value) (chars : List Char) : Option (Value × List Char) :=
  match skipSpace chars with
  | '\x7d' :: rest => some (.table [], rest)
  | _ =>
      match readAssignments readItem chars with
      | some (assignments, rest) => (Value.ofAssignments? assignments).map (·, rest)
      | none => none

/-- A value in which arrays and tables are nested at most so deep. -/
def readValue : (depth : Nat) → Reader Value
  | 0, chars => readScalar chars
  | depth + 1, chars =>
      match chars with
      | '[' :: rest =>
          (readItems (readValue depth) rest).map fun (items, rest) => (.array items, rest)
      | '\x7b' :: rest => readInlineTable (readValue depth) rest
      | chars => readScalar chars

end CloudSpeech.Toml
