import CloudSpeech.Settings.Field
import CloudSpeech.Settings.Entry
import CloudSpeech.Json.Tree
/-!
# Settings in a JSON text

Reading settings from a JSON text alone.  Every value has to be of the kind of its setting.  Names
that no setting has are passed over, what is missing has its default, and no name may occur twice.
A group of settings may also be an array of its values in order.  Of several errors the first in
the text counts.
-/

namespace CloudSpeech.Settings

/-- Why a JSON text gives no settings. -/
inductive TextError where
  | flawed (flaw : Json.Flaw)
  | mismatch (found : Found) (wanted : String)
  | negative (value : Int)
  | duplicate (name : String)
  deriving DecidableEq, Repr

/-- What was found in a JSON text. -/
def Found.jsonWords : Found → String
  | integer value => "integer `" ++ toString value ++ "`"
  | real value => "floating point `" ++ value.reportText ++ "`"
  | nil => "null"
  | found => found.words

/-- The text of an error; a flaw has none of its own. -/
def TextError.message : TextError → String
  | flawed _ => ""
  | mismatch found wanted => "invalid type: " ++ found.jsonWords ++ ", expected " ++ wanted
  | negative value => "invalid value: integer `" ++ toString value ++ "`, expected u64"
  | duplicate name => "duplicate field `" ++ name ++ "`"

/-- What a JSON number is found to be. -/
def Found.ofNumber : Json.Number → Found
  | .natural value => integer value
  | .negative magnitude => integer (-magnitude)
  | .real value => real value

def Found.ofTree : Json.Tree → Except Json.Flaw Found
  | .null => .ok nil
  | .bool value => .ok (bool value)
  | .number content => content.value.map ofNumber
  | .string content => content.map text
  | .array _ _ => .ok array
  | .object _ _ => .ok table
  | .fault found => .error found.reading

/-- The error of a tree where something else was wanted. -/
def unexpected {α : Type} (tree : Json.Tree) (wanted : String) : Except TextError α :=
  match Found.ofTree tree with
  | .ok found => .error (.mismatch found wanted)
  | .error flaw => .error (.flawed flaw)

def readWhole (tree : Json.Tree) : Except TextError UInt64 :=
  match tree with
  | .number content =>
      match content.value with
      | .ok (.natural value) => .ok value.toUInt64
      | .ok (.negative magnitude) => .error (.negative (-magnitude))
      | _ => unexpected tree "u64"
  | tree => unexpected tree "u64"

def readFlag : Json.Tree → Except TextError Bool
  | .bool value => .ok value
  | tree => unexpected tree "a boolean"

def readText : Json.Tree → Except TextError String
  | .string (.ok content) => .ok content
  | tree => unexpected tree "a string"

/-- A tree as a value of a kind. -/
def readKind (tree : Json.Tree) : (kind : Kind) → Except TextError kind.Value
  | .text => readText tree
  | .whole => readWhole tree
  | .flag => readFlag tree

/-- Values of some fields. -/
abbrev Values := List ((field : Field) × field.kind.Value)

/-- The value of a field, or the default if there is none. -/
def Values.get (values : Values) (field : Field) : field.kind.Value :=
  match values with
  | [] => field.default
  | ⟨other, value⟩ :: rest => if h : other = field then h ▸ value else get rest field

mutual

/-- The first flaw that is met when a tree is passed over. -/
def skipFlaw? : Json.Tree → Option Json.Flaw
  | .array items ending => (skipItems? items).or (ending.map (·.skipping))
  | .object members ending => (skipMembers? members).or (ending.map (·.skipping))
  | .fault found => some found.skipping
  | _ => none

def skipItems? : List Json.Tree → Option Json.Flaw
  | [] => none
  | item :: rest => (skipFlaw? item).or (skipItems? rest)

def skipMembers? : List (Except Json.Flaw String × Json.Tree) → Option Json.Flaw
  | [] => none
  | (_, value) :: rest => (skipFlaw? value).or (skipMembers? rest)

end

/-- A part of a group of settings: its name, and how its values are read. -/
structure Part where
  name : String
  read : Json.Tree → Except TextError Values

/-- Reads the members of an object after those with the names in `seen`. -/
def readMembers (parts : List Part) (ending : Option Json.Fault) (seen : List String) :
    List (Except Json.Flaw String × Json.Tree) → Except TextError Values
  | [] =>
      match ending with
      | none => .ok []
      | some fault => .error (.flawed fault.reading)
  | (.error flaw, _) :: _ => .error (.flawed flaw)
  | (.ok name, value) :: rest =>
      match parts.find? (·.name = name) with
      | none =>
          match skipFlaw? value with
          | some flaw => .error (.flawed flaw)
          | none => readMembers parts ending seen rest
      | some part =>
          if name ∈ seen then .error (.duplicate name)
          else do
            let values ← part.read value
            let more ← readMembers parts ending (name :: seen) rest
            pure (values ++ more)

/-- Reads the items of an array in the order of the parts.  There may be fewer items, not more. -/
def readItems (ending : Option Json.Fault) : List Part → List Json.Tree → Except TextError Values
  | _, [] =>
      match ending with
      | none => .ok []
      | some fault => .error (.flawed fault.reading)
  | [], _ :: _ => .error (.flawed .malformed)
  | part :: parts, item :: items => do
      let values ← part.read item
      let more ← readItems ending parts items
      pure (values ++ more)

/-- Reads a group of settings. -/
def readGroup (parts : List Part) (typeName : String) (tree : Json.Tree) :
    Except TextError Values :=
  match tree with
  | .object members ending => readMembers parts ending [] members
  | .array items ending => readItems ending parts items
  | tree => unexpected tree typeName

/-- A field as a part of its section. -/
def fieldPart (field : Field) : Part where
  name := field.name
  read tree := (readKind tree field.kind).map fun value => [⟨field, value⟩]

/-- A section as a part of all settings. -/
def sectionPart (part : Section) : Part where
  name := part.name
  read := readGroup (part.fields.map fieldPart) part.typeName

def ofJsonText (text : String) : Except TextError Settings := do
  let document := Json.Tree.ofText text
  let values ← readGroup (Section.all.map sectionPart) "struct AppConfig" document.root
  if document.trailing then .error (.flawed .malformed)
  else pure (ofFields values.get)

end CloudSpeech.Settings
