import CloudSpeech.Settings.File
/-!
# Working directories in memory

A working directory that is given by the files in it and below it.
-/

namespace CloudSpeech.Settings

/-- A working directory with files, whose names may lead through directories below it. -/
structure Folder where
  path : String
  files : List (String × Octets)

namespace Folder

/-- The names on the way to a file. -/
def names (name : String) : List String :=
  (Path.components name).filterMap fun
    | .normal name => some name
    | _ => none

/-- Whether the way leads to a directory, which has a file in it or below it. -/
def isDirectory (folder : Folder) (way : List String) : Bool :=
  folder.files.any fun (name, _) =>
    way.isPrefixOf (names name) && way.length < (names name).length

/-- Where components lead from a directory, whose names are given last first. -/
def follow (folder : Folder) : List String → List Path.Component → Option (List String)
  | way, [] => some way.reverse
  | way, .normal name :: rest =>
      if rest = [] ∨ folder.isDirectory (name :: way).reverse then follow folder (name :: way) rest
      else none
  | _ :: way, .parent :: rest => follow folder way rest
  | [], .parent :: _ => none
  | way, .current :: rest => follow folder way rest
  | _, .root :: _ => none

/-- Whether a path can only lead to a directory. -/
def endsAsDirectory (path : String) : Bool :=
  match path.toList.reverse with
  | '/' :: _ => true
  | '.' :: '/' :: _ => true
  | _ => false

def file? (folder : Folder) (path : String) : Option Octets :=
  let base := Path.components folder.path
  let parts := Path.components path
  if endsAsDirectory path ∨ ¬ base.isPrefixOf parts then none
  else
    (folder.follow [] (parts.drop base.length)).bind fun way =>
      (folder.files.find? fun (name, _) => names name = way).map (·.2)

/-- The files of a folder as they are looked for. -/
def toDirectory (folder : Folder) : Directory where
  path := folder.path
  file? path := (folder.file? path).map .ok

end Folder

end CloudSpeech.Settings
