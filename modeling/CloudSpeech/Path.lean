import CloudSpeech.Text.Split
/-!
# File paths

A path is a text whose parts stand between slashes.  The functions here follow the usual reading:
a part that is a single dot counts only in front, empty parts do not count, and the extension of a
name begins at its last dot unless the name begins there.
-/

namespace CloudSpeech.Path

inductive Component where
  | root
  | current
  | parent
  | normal (name : String)
  deriving DecidableEq, Repr

def Component.text : Component → String
  | root => "/"
  | current => "."
  | parent => ".."
  | normal name => name

def isAbsolute (path : String) : Bool := path.toList.head? = some '/'

/-- The component of a piece that is not in front, if it counts. -/
def component? (piece : List Char) : Option Component :=
  if piece = [] ∨ piece = ['.'] then none
  else if piece = ['.', '.'] then some .parent
  else some (.normal (String.ofList piece))

def components (path : String) : List Component :=
  let pieces := Text.split (· = '/') path.toList
  let rest := pieces.filterMap component?
  if isAbsolute path then .root :: rest
  else if pieces.head? = some ['.'] then .current :: rest
  else rest

def ofComponents : List Component → String
  | .root :: rest => "/" ++ String.intercalate "/" (rest.map Component.text)
  | parts => String.intercalate "/" (parts.map Component.text)

/-- The name of the file that a path leads to, if its last component is a name. -/
def fileName? (path : String) : Option String :=
  match (components path).getLast? with
  | some (.normal name) => some name
  | _ => none

def extensionOf? (name : String) : Option String :=
  let chars := name.toList
  let tail := chars.reverse.takeWhile (· ≠ '.')
  if tail.length = chars.length ∨ tail.length + 1 = chars.length then none
  else some (String.ofList tail.reverse)

def extension? (path : String) : Option String := (fileName? path).bind extensionOf?

/-- A path inside a directory; an absolute path stays as it is. -/
def join (directory path : String) : String :=
  if isAbsolute path then path
  else if directory = "" ∨ directory.toList.getLast? = some '/' then directory ++ path
  else directory ++ "/" ++ path

/-- Drops the slashes and the single dots that do not count from a path given last character
first. -/
def dropTail : List Char → List Char
  | '/' :: rest => dropTail rest
  | '.' :: '/' :: rest => dropTail rest
  | chars => chars

/-- A path without the slashes and dots that do not count at its end, if it leads to a name. -/
def withoutTail? (path : String) : Option String :=
  (fileName? path).map fun _ => String.ofList (dropTail path.toList.reverse).reverse

/-- The path of the file whose name has a dot and `addition` appended, if the path leads to a
name. -/
def append? (path addition : String) : Option String :=
  (withoutTail? path).map fun path => path ++ "." ++ addition

/-- A path as seen from a directory, if both are absolute or both are not. -/
def relativeTo (directory path : String) : String :=
  match components directory, components path with
  | .root :: base, .root :: parts => ofComponents (leave base parts)
  | _, _ => path
where
  /-- Drops the common front and climbs out of what is left of the base. -/
  leave : List Component → List Component → List Component
    | [], parts => parts
    | base, [] => base.map fun _ => .parent
    | b :: base, p :: parts =>
        if b = p then leave base parts
        else (b :: base).map (fun _ => .parent) ++ (p :: parts)

end CloudSpeech.Path
