import CloudSpeech.Log.Line
import CloudSpeech.Program
import CloudSpeech.Program.World
import CloudSpeech.Text.Uuid
/-!
# The command line program

Reads the command line, the environment and the settings files, runs the invocation and prints
what comes of it.  It reaches no network and has no sound device of its own, so it speaks only
where its services and its device are put in.
-/

namespace CloudSpeech.Main

def variableName (field : Settings.Field) : String :=
  (Settings.Environment.namePrefix ++ field.sectionOf.name ++ "__" ++ field.name).toUpper

def variableNames : List String := Log.Filter.variableName :: Settings.Field.all.map variableName

def environment : IO (List (String × String)) :=
  variableNames.filterMapM fun name => do
    let value ← IO.getEnv name
    pure (value.map (name, ·))

def content? (path : String) : IO (Option (Except String Octets)) := do
  try
    let bytes ← IO.FS.readBinFile path
    pure (some (.ok bytes.toList))
  catch
    | .permissionDenied _ _ details => pure (some (.error details))
    | _ => pure none

/-- The paths under which settings files are looked for. -/
def candidates (directory : Settings.Directory) (configPath : Option String) : List String :=
  let names := (configPath.map ([·])).getD Settings.standardNames
  names.flatMap fun name =>
    Path.join directory.path name :: (directory.alternatives name).map (·.1)

/-- The working directory, as far as an invocation looks at it. -/
def workingDirectory (words : List CommandLine.Word) : IO Settings.Directory := do
  let directory : Settings.Directory :=
    { path := (← IO.currentDir).toString, file? := fun _ => none }
  match Program.start words with
  | .over _ _ _ => pure directory
  | .speak _ configPath =>
      let files ← (candidates directory configPath).mapM fun path => do pure (path, ← content? path)
      pure { directory with file? := fun path => (files.lookup path).join }

/-- What the program reaches by itself. -/
def world : IO Program.World := do
  let random ← IO.getRandomBytes 16
  pure {
    client := .builtIn
    tokenService := fun _ => .unreachable
    speechService := fun _ => .unreachable
    device := none
    freshId := Text.Uuid.ofRandom random.toList }

def printLog (outcome : Program.Outcome) (environment : List (String × String)) : IO Unit := do
  let json := outcome.madeFor.any (·.log.json)
  for event in outcome.logged environment do
    IO.eprintln (if json then event.jsonLine else event.line)

end CloudSpeech.Main

open CloudSpeech in
def main (arguments : List String) : IO UInt32 := do
  let program ← IO.appPath
  let words := (program.toString :: arguments).map CommandLine.Word.text
  let environment ← Main.environment
  let directory ← Main.workingDirectory words
  let world ← Main.world
  let make : Program.BackendMaker := fun settings => .ok (Program.backend world settings)
  let outcome := Program.run directory environment make words
  Main.printLog outcome environment
  IO.print outcome.stdout
  IO.eprint outcome.stderr
  pure (UInt32.ofNat (outcome.code % 256).toNat)
