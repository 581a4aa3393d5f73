import CloudSpeech.Decimal.Whole
import CloudSpeech.Decimal.Shortest
import CloudSpeech.Text.Lowercase
import CloudSpeech.Text.Quoted
import CloudSpeech.Toml.Value
import CloudSpeech.Json.Value
/-!
# Entries

What the sources of settings hold before it is known which settings it belongs to: values of any
kind, each with the source that it comes from.  Tables and arrays that exist only because
something was put into them come from no source.
-/

namespace CloudSpeech.Settings

/-- A value that holds no other values. -/
inductive Scalar where
  | nil
  | bool (value : Bool)
  | integer (value : Int)
  | real (value : Decimal.Binary64)
  | text (content : String)
  deriving DecidableEq, Repr

/-- A value of any kind, and where it comes from. -/
inductive Entry where
  | scalar (origin : Option String) (value : Scalar)
  | array (origin : Option String) (items : List Entry)
  | table (origin : Option String) (entries : List (String × Entry))

/-- Entries under their keys.  No key occurs twice. -/
abbrev Entries := List (String × Entry)

namespace Entry

/-- A table that something is about to be put into. -/
def emptyTable : Entry := .table none []

/-- What fills the places of an array that nothing was put into. -/
def padding : Entry := .scalar none .nil

def origin : Entry → Option String
  | scalar origin _ => origin
  | array origin _ => origin
  | table origin _ => origin

/-- The entries of a table; nothing else has any. -/
def entries : Entry → Entries
  | table _ entries => entries
  | _ => []

mutual

def ofToml (origin : String) : Toml.Value → Entry
  | .string content => .scalar (some origin) (.text content)
  | .integer value => .scalar (some origin) (.integer value)
  | .real value => .scalar (some origin) (.real value)
  | .bool value => .scalar (some origin) (.bool value)
  | .moment value => .scalar (some origin) (.text value.text)
  | .array items => .array (some origin) (ofTomlItems origin items)
  | .table entries => .table (some origin) (ofTomlEntries origin entries)

def ofTomlItems (origin : String) : List Toml.Value → List Entry
  | [] => []
  | item :: rest => ofToml origin item :: ofTomlItems origin rest

def ofTomlEntries (origin : String) : List (String × Toml.Value) → List (String × Entry)
  | [] => []
  | (key, value) :: rest => (key, ofToml origin value) :: ofTomlEntries origin rest

end

/-- A JSON number; a whole one that needs more than sixty-three bits is taken as a real one. -/
def ofNumber : Json.Number → Scalar
  | .natural value =>
      if value < Decimal.signedBound then .integer value else .real (Decimal.Binary64.ofNat value)
  | .negative magnitude => .integer (-magnitude)
  | .real value => .real value

mutual

def ofJson (origin : String) : Json.Value → Entry
  | .null => .scalar (some origin) .nil
  | .bool value => .scalar (some origin) (.bool value)
  | .number value => .scalar (some origin) (ofNumber value)
  | .string content => .scalar (some origin) (.text content)
  | .array items => .array (some origin) (ofJsonItems origin items)
  | .object members => .table (some origin) (ofJsonMembers origin members)

def ofJsonItems (origin : String) : List Json.Value → List Entry
  | [] => []
  | item :: rest => ofJson origin item :: ofJsonItems origin rest

def ofJsonMembers (origin : String) : List (String × Json.Value) → List (String × Entry)
  | [] => []
  | (key, value) :: rest => (key, ofJson origin value) :: ofJsonMembers origin rest

end

end Entry

/-- What was found in a place where something else was wanted. -/
inductive Found where
  | bool (value : Bool)
  | integer (value : Int)
  | real (value : Decimal.Binary64)
  | text (content : String)
  | nil
  | array
  | table
  deriving DecidableEq, Repr

namespace Found

def ofEntry : Entry → Found
  | .scalar _ .nil => nil
  | .scalar _ (.bool value) => bool value
  | .scalar _ (.integer value) => integer value
  | .scalar _ (.real value) => real value
  | .scalar _ (.text content) => text content
  | .array _ _ => array
  | .table _ _ => table

def boolWord (value : Bool) : String := if value then "true" else "false"

/-- What was found in the place of a single setting or of a whole file. -/
def words : Found → String
  | bool value => "boolean `" ++ boolWord value ++ "`"
  | integer value => "64-bit integer `" ++ toString value ++ "`"
  | real value => "floating point `" ++ value.plainText ++ "`"
  | text content => "string " ++ Text.quoted content
  | nil => "unit value"
  | array => "sequence"
  | table => "map"

/-- What was found in the place of a section. -/
def sectionWords : Found → String
  | integer value => "integer `" ++ toString value ++ "`"
  | real value => "floating point `" ++ value.pointedText ++ "`"
  | found => found.words

end Found

end CloudSpeech.Settings
