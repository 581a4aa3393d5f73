import CloudSpeech.Path
import CloudSpeech.Text.Utf8
import CloudSpeech.Settings.Entry
import CloudSpeech.Toml.Document
import CloudSpeech.Json.Tree
/-!
# Settings files

The extension of a settings file tells its format: TOML, JSON or another that is registered.  A
file is looked for under the name that is given, and if there is no such file, under the name with
each extension added.
-/

namespace CloudSpeech.Settings

inductive Format where
  | toml
  | json
  /-- Any other format, given by the value that a text reads as, if it reads as one. -/
  | other (read : String → Option Json.Value)

/-- The files that settings are looked for in, as seen from a working directory. -/
structure Directory where
  path : String
  /-- The content of the file at a path, or why it cannot be read.  Where there is nothing, or
  something that is no regular file, there is no file. -/
  file? : String → Option (Except String Octets)
  /-- The registered extensions with their formats, in the order in which they are tried. -/
  extensions : List (String × Format) := [("toml", .toml), ("json", .json)]

/-- Why no settings file is found or read. -/
inductive FileError where
  | notFound (name : String)
  /-- There is a file, whose extension is not that of a format. -/
  | unknownFormat (path : String)
  | unreadable (reason : String)
  deriving DecidableEq, Repr

def FileError.message : FileError → String
  | notFound name => "configuration file \"" ++ name ++ "\" not found"
  | unknownFormat path =>
      "configuration file \"" ++ path ++ "\" is not of a registered file format"
  | unreadable reason => reason

/-- Why what a settings file holds is not accepted. -/
inductive ContentError where
  | malformed
  /-- It holds something other than a table. -/
  | noTable (found : Found) (origin : String)
  deriving DecidableEq, Repr

def ContentError.message : ContentError → String
  | malformed => "syntax error"
  | noTable found origin =>
      "invalid type: " ++ found.words ++ ", expected a map in " ++ origin ++ " in " ++ origin

theorem findSome?_congr {α β : Type} {f g : α → Option β} {items : List α}
    (h : ∀ item ∈ items, f item = g item) : items.findSome? f = items.findSome? g := by
  induction items with
  | nil => rfl
  | cons item rest ih =>
      rw [List.findSome?_cons, List.findSome?_cons, h item List.mem_cons_self,
        ih fun other hother => h other (List.mem_cons_of_mem item hother)]

structure File where
  /-- Its path as seen from the working directory. -/
  origin : String
  format : Format
  text : String

namespace Directory

def format? (directory : Directory) (extension : String) : Option Format :=
  directory.extensions.lookup extension

/-- The paths under which the file with a name is looked for after its own, with their formats. -/
def alternatives (directory : Directory) (name : String) : List (String × Format) :=
  directory.extensions.filterMap fun (extension, format) =>
    (Path.append? (Path.join directory.path name) extension).map (·, format)

def locate (directory : Directory) (name : String) :
    Except FileError (String × Format × Except String Octets) :=
  let exact := Path.join directory.path name
  match directory.file? exact with
  | some content =>
      match (Path.extension? exact).bind directory.format? with
      | some format => .ok (exact, format, content)
      | none => .error (.unknownFormat exact)
  | none =>
      let found := (directory.alternatives name).findSome? fun (path, format) =>
        (directory.file? path).map fun content => (path, format, content)
      match found with
      | some found => .ok found
      | none => .error (.notFound name)

def read (directory : Directory) (name : String) : Except FileError File := do
  let (path, format, content) ← directory.locate name
  match content with
  | .error reason => .error (.unreadable reason)
  | .ok octets =>
      match Text.Utf8.strict? octets with
      | none => .error (.unreadable "stream did not contain valid UTF-8")
      | some text => pure ⟨Path.relativeTo directory.path path, format, text⟩

section

variable {directory other : Directory} {name : String} (hpath : other.path = directory.path)
  (hextensions : other.extensions = directory.extensions)
  (hexact : other.file? (Path.join directory.path name) =
    directory.file? (Path.join directory.path name))
  (hplaces : ∀ place ∈ directory.alternatives name, other.file? place.1 = directory.file? place.1)

include hpath hextensions hexact hplaces

theorem locate_congr : other.locate name = directory.locate name := by
  have halternatives : other.alternatives name = directory.alternatives name := by
    rw [alternatives, alternatives, hpath, hextensions]
  have hformat : other.format? = directory.format? :=
    funext fun extension => by rw [format?, format?, hextensions]
  have hfound : ((directory.alternatives name).findSome? fun place =>
        (other.file? place.1).map fun content => (place.1, place.2, content)) =
      (directory.alternatives name).findSome? fun place =>
        (directory.file? place.1).map fun content => (place.1, place.2, content) :=
    findSome?_congr fun place hplace => by rw [hplaces place hplace]
  simp only [locate, hpath, hexact, halternatives, hformat, hfound]

/-- What is read under a name depends on the files at the paths that are looked at. -/
theorem read_congr : other.read name = directory.read name := by
  rw [read, read, locate_congr hpath hextensions hexact hplaces, hpath]

end

end Directory

namespace File

/-- The entries of a file that reads as a value. -/
def entriesOf (origin : String) : Option Json.Value → Except ContentError Entries
  | none => .error .malformed
  | some value =>
      match Entry.ofJson origin value with
      | .table _ entries => .ok entries
      | entry => .error (.noTable (.ofEntry entry) origin)

def entries (file : File) : Except ContentError Entries :=
  match file.format with
  | .toml =>
      match Toml.read? file.text with
      | none => .error .malformed
      | some entries => .ok (Entry.ofTomlEntries file.origin entries)
  | .json => entriesOf file.origin (Json.Value.ofText? file.text)
  | .other read => entriesOf file.origin (read file.text)

end File

end CloudSpeech.Settings
