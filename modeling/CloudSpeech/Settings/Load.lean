import CloudSpeech.Settings.File
import CloudSpeech.Settings.Environment
import CloudSpeech.Settings.Merge
import CloudSpeech.Settings.Conversion
/-!
# Loading settings

Settings come from three layers: the defaults, files and the environment, each of which overrides
those before it.  What the layers say is merged, each field is converted to its kind, and the
settings are checked.
-/

namespace CloudSpeech.Settings

/-- Why the merged layers do not make settings. -/
inductive ShapeError where
  /-- A section is given as something that has no fields. -/
  | sectionShape (part : Section) (found : Found)
  | fieldShape (label : String) (mismatch : Mismatch)
  deriving DecidableEq, Repr

def ShapeError.message : ShapeError → String
  | sectionShape part found =>
      "invalid type: " ++ found.sectionWords ++ ", expected " ++ part.typeName
  | fieldShape label mismatch =>
      "invalid type: " ++ mismatch.found.words ++ ", expected " ++ mismatch.wanted.words
        ++ " for key `" ++ label ++ "`"
        ++ (match mismatch.origin with
          | some origin => " in " ++ origin
          | none => "")

inductive LoadError where
  | file (error : FileError)
  | content (error : ContentError)
  | shape (error : ShapeError)
  | invalid (reason : Invalid)
  deriving DecidableEq, Repr

def LoadError.message : LoadError → String
  | file error => "Failed to load configuration: " ++ error.message
  | content error => "Failed to load configuration: " ++ error.message
  | shape error => "Failed to parse configuration: Failed to deserialize config: " ++ error.message
  | invalid reason => "Configuration validation failed: " ++ reason.message

/-- The value of a kind as a scalar. -/
def Kind.toScalar : (kind : Kind) → kind.Value → Scalar
  | .text, content => .text content
  | .whole, value => .integer (UInt64.toNat value)
  | .flag, value => .bool value

/-- The path of a field from the root. -/
def Field.path (field : Field) : String := field.sectionOf.name ++ "." ++ field.name

/-- The layer of the defaults. -/
def defaultEntries : Entries :=
  Field.all.map fun field => (field.path, .scalar none (field.kind.toScalar field.default))

/-- The values that a section gives for its fields. -/
inductive Contents where
  /-- Values under the names of the fields. -/
  | named (entries : Entries)
  /-- Values in the order of the fields. -/
  | listed (items : List Entry)

def contents (root : Entries) (part : Section) : Except ShapeError Contents :=
  match Entries.find? root part.name with
  | none => .ok (.named [])
  | some (.table _ entries) => .ok (.named entries)
  | some (.array _ items) => .ok (.listed items)
  | some entry => .error (.sectionShape part (.ofEntry entry))

/-- The entry that a section holds for a field, and how an error names its place. -/
def Contents.entry? (contents : Contents) (field : Field) : Option Entry × String :=
  match contents with
  | named entries => (Entries.find? entries field.name, field.path)
  | listed items =>
      (items[field.position]?, field.sectionOf.name ++ "[" ++ toString field.position ++ "]")

/-- The value of a field: its entry converted, or the default if it has none. -/
def fieldValue (root : Entries) (field : Field) : Except ShapeError field.kind.Value := do
  let contents ← contents root field.sectionOf
  match contents.entry? field with
  | (none, _) => pure field.default
  | (some entry, label) => (entry.convert field.kind).mapError (.fieldShape label)

def ofEntries (root : Entries) : Except ShapeError Settings := ofFieldsM (fieldValue root)

/-- What the layers say when they are merged. -/
def mergeLayers (layers : List Entries) : Entry := layers.foldl Entry.putSource Entry.emptyTable

/-- The entries of a file that has to be there. -/
def requiredFile (directory : Directory) (name : String) : Except LoadError Entries := do
  let file ← (directory.read name).mapError .file
  file.entries.mapError .content

/-- The entries of a file that may be missing.  One that cannot be read counts as missing. -/
def optionalFile (directory : Directory) (name : String) : Except LoadError Entries :=
  match directory.read name with
  | .error _ => .ok []
  | .ok file => file.entries.mapError .content

/-- The files that are read where no path is given. -/
def standardNames : List String := ["bing-tts", "bing-tts.local"]

/-- The layers that files give: the one at a path, or those with the standard names. -/
def fileLayers (directory : Directory) (path : Option String) : Except LoadError (List Entries) :=
  match path with
  | some path => (requiredFile directory path).map ([·])
  | none => standardNames.mapM (optionalFile directory)

/-- The settings of layers, if they make sense. -/
def ofLayers (layers : List Entries) : Except LoadError Settings := do
  let settings ← (ofEntries (mergeLayers layers).entries).mapError .shape
  match settings.invalid? with
  | some reason => .error (.invalid reason)
  | none => pure settings

/-- Loads the settings, with a layer below the files and the environment. -/
def loadOver (base : Entries) (directory : Directory) (environment : List (String × String))
    (path : Option String) : Except LoadError Settings := do
  let files ← fileLayers directory path
  ofLayers (base :: files ++ [Environment.entries environment])

def load (directory : Directory) (environment : List (String × String)) (path : Option String) :
    Except LoadError Settings :=
  loadOver defaultEntries directory environment path

end CloudSpeech.Settings
