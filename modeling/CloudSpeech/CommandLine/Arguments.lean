import CloudSpeech.CommandLine.Word
import CloudSpeech.Decimal.Whole
/-!
# Arguments

Reading the words of a command line.  Up to three words fill the places of the subscription key,
the voice index and the message; options may stand anywhere before further words begin, and from
then on every word is kept as it is.  A word is held back until the next one settles what it
belongs to, so a value is checked only then.
-/

namespace CloudSpeech.CommandLine

structure Arguments where
  apiKey : Option String := none
  langIndex : Option Nat := none
  message : Option String := none
  rest : List String := []
  listVoices : Bool := false
  json : Bool := false
  configPath : Option Word := none
  deriving DecidableEq, Repr

inductive Stop where
  | help
  | version
  | unknownArgument (shown : String)
  | unexpectedValue (value flag : String)
  | repeated (option : String)
  /-- The option for the settings file lacks its value. -/
  | missingValue
  /-- A flag was given that makes sense only beside another. -/
  | missingCompanion
  | invalidIndex (shown : String) (fault : Decimal.ReadFault)
  /-- A word is no text where a text is needed. -/
  | notText
  deriving DecidableEq, Repr

inductive Place where
  | apiKey
  | langIndex
  | message
  deriving DecidableEq, Repr

/-- A word that has been read and not yet checked. -/
inductive Held where
  | nothing
  | positional (place : Place) (word : Word)
  /-- The option for the settings file, and its value if that has been read. -/
  | config (value : Option Word)
  /-- The words after the message, last word first. -/
  | rest (words : List Word)
  deriving DecidableEq, Repr

/-- A command line that has been read up to some word. -/
structure Reader where
  arguments : Arguments := {}
  held : Held := .nothing
  places : List Place := [.apiKey, .langIndex, .message]
  ended : Bool := false
  deriving DecidableEq, Repr

namespace Reader

def readText (word : Word) : Except Stop String :=
  match word.text? with
  | some text => .ok text
  | none => .error .notText

def readIndex (word : Word) : Except Stop Nat :=
  match word.text? with
  | none => .error .notText
  | some text => (Decimal.readUnsigned text).mapError (.invalidIndex text)

def fill (arguments : Arguments) (place : Place) (word : Word) : Except Stop Arguments :=
  match place with
  | .apiKey => (readText word).map fun key => { arguments with apiKey := some key }
  | .langIndex => (readIndex word).map fun index => { arguments with langIndex := some index }
  | .message => (readText word).map fun message => { arguments with message := some message }

def setConfig (arguments : Arguments) (path : Word) : Except Stop Arguments :=
  if arguments.configPath.isSome then .error (.repeated "--config <FILE>")
  else if path.isEmpty then .error .missingValue
  else .ok { arguments with configPath := some path }

/-- Checks the word held back and stores what it says. -/
def settle (reader : Reader) : Except Stop Reader :=
  match reader.held with
  | .nothing => .ok reader
  | .positional place word =>
      (fill reader.arguments place word).map fun arguments =>
        { reader with arguments, held := .nothing }
  | .config none => .error .missingValue
  | .config (some path) =>
      (setConfig reader.arguments path).map fun arguments =>
        { reader with arguments, held := .nothing }
  | .rest words =>
      (words.reverse.mapM readText).map fun rest =>
        { reader with arguments := { reader.arguments with rest }, held := .nothing }

/-- Takes a word as the next positional one.  When all places are filled, it and everything after
it is kept as it is. -/
def takePositional (reader : Reader) (word : Word) : Except Stop Reader :=
  match reader.places, reader.held with
  | place :: places, _ =>
      reader.settle.map fun reader => { reader with held := .positional place word, places }
  | [], .rest words => .ok { reader with held := .rest (word :: words) }
  | [], _ => reader.settle.map fun reader => { reader with held := .rest [word], ended := true }

/-- Takes a word that is no option: the value of an option that lacks one, or a positional word. -/
def takeValue (reader : Reader) (word : Word) : Except Stop Reader :=
  match reader.held with
  | .config none => .ok { reader with held := .config (some word) }
  | _ => reader.takePositional word

inductive Flag where
  | listVoices
  | json
  | help
  | version
  deriving DecidableEq, Repr

namespace Flag

def ofName? : String → Option Flag
  | "list-voices" => some listVoices
  | "json" => some json
  | "help" => some help
  | "version" => some version
  | _ => none

def shown : Flag → String
  | listVoices => "--list-voices"
  | json => "--json"
  | help => "--help"
  | version => "--version"

def ofLetter? : Char → Option Flag
  | 'h' => some help
  | 'V' => some version
  | _ => none

/-- Whether each letter of a cluster stands for a flag. -/
def areLetters : Word → Bool
  | .text letters => letters.toList.all fun letter => (ofLetter? letter).isSome
  | .raw _ => false

end Flag

def takeFlag (reader : Reader) (flag : Flag) : Except Stop Reader := do
  let reader ← reader.settle
  match flag with
  | .help => .error .help
  | .version => .error .version
  | .listVoices =>
      if reader.arguments.listVoices then .error (.repeated flag.shown)
      else pure { reader with arguments := { reader.arguments with listVoices := true } }
  | .json =>
      if reader.arguments.json then .error (.repeated flag.shown)
      else pure { reader with arguments := { reader.arguments with json := true } }

def takeConfig (reader : Reader) (value : Option Word) : Except Stop Reader := do
  let reader ← reader.settle
  match value with
  | none => pure { reader with held := .config none }
  | some path => (setConfig reader.arguments path).map fun arguments => { reader with arguments }

/-- Takes a word with a name.  One that is no option is a value once all places are filled. -/
def takeLong (reader : Reader) (word name : Word) (value : Option Word) : Except Stop Reader :=
  match name with
  | .raw _ => .error (.unknownArgument ("--" ++ name.shown))
  | .text text =>
      if text = "config" then reader.takeConfig value
      else
        match Flag.ofName? text, value with
        | some flag, none => reader.takeFlag flag
        | some flag, some value => .error (.unexpectedValue value.shown flag.shown)
        | none, _ =>
            if reader.places.isEmpty then reader.takeValue word
            else .error (.unknownArgument ("--" ++ text))

/-- Takes a cluster of letters.  Each flag that has a letter ends the reading, so the first letter
decides; but once all places are filled, one letter without a flag makes the cluster a value. -/
def takeShort (reader : Reader) (word letters : Word) : Except Stop Reader :=
  if reader.places.isEmpty ∧ ¬ Flag.areLetters letters then reader.takeValue word
  else
    match letters.firstLetter? with
    | none => .error (.unknownArgument ("-" ++ letters.shown))
    | some letter =>
        match Flag.ofLetter? letter with
        | some flag => reader.takeFlag flag
        | none => .error (.unknownArgument (String.ofList ['-', letter]))

def take (reader : Reader) (word : Word) : Except Stop Reader :=
  if reader.ended then reader.takePositional word
  else
    match word.shape with
    | .terminator => .ok { reader with ended := true }
    | .long name value => reader.takeLong word name value
    | .short letters => reader.takeShort word letters
    | .plain => reader.takeValue word

def finish (reader : Reader) : Except Stop Arguments := do
  let reader ← reader.settle
  if reader.arguments.json ∧ ¬ reader.arguments.listVoices then .error .missingCompanion
  else pure reader.arguments

end Reader

def Arguments.read (words : List Word) : Except Stop Arguments := do
  let reader ← words.foldlM Reader.take ({} : Reader)
  reader.finish

end CloudSpeech.CommandLine
