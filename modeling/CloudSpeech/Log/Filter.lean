import CloudSpeech.Decimal.Whole
import CloudSpeech.Log
import CloudSpeech.Text.Blank
/-!
# Log filters

A filter is a list of directives, each of which gives the least level for the components whose
paths begin as it says.  Of the directives that apply to an event the one that says most about the
path decides, and of equal ones the last.  Where none applies nothing is logged.
-/

namespace CloudSpeech.Log

/-- The least level that is logged; none where nothing is. -/
abbrev Threshold := Option Level

namespace Threshold

def admits (threshold : Threshold) (level : Level) : Bool :=
  threshold.any fun least => least.rank ≤ level.rank

def everything : Threshold := some .trace

/-- The threshold with a number, from nothing to everything. -/
def ofNumber? : Nat → Option Threshold
  | 0 => some none
  | 1 => some (some .error)
  | 2 => some (some .warn)
  | 3 => some (some .info)
  | 4 => some (some .debug)
  | 5 => some (some .trace)
  | _ => none

/-- The threshold with a name in small letters. -/
def ofName? : String → Option Threshold
  | "off" => some none
  | "error" => some (some .error)
  | "warn" => some (some .warn)
  | "info" => some (some .info)
  | "debug" => some (some .debug)
  | "trace" => some (some .trace)
  | _ => none

/-- Reads a threshold: a number, or a name in any case. -/
def read? (text : String) : Option Threshold :=
  match Decimal.readUnsigned text with
  | .ok number => ofNumber? number
  | .error _ => ofName? (String.ofList (text.toList.map Char.toLower))

end Threshold

structure Directive where
  /-- How the paths of the components begin that it is for; empty for all. -/
  target : String := ""
  threshold : Threshold
  /-- Whether it is only for what happens within a span.  Nothing here does. -/
  withinSpan : Bool := false
  deriving DecidableEq, Repr

inductive DirectiveFault where
  | malformed
  | unknownLevel
  deriving DecidableEq, Repr

def DirectiveFault.message : DirectiveFault → String
  | malformed => "invalid filter directive"
  | unknownLevel =>
      "error parsing level filter: expected one of \"off\", \"error\", \"warn\", \"info\", "
        ++ "\"debug\", \"trace\", or a number 0-5"

namespace Directive

def appliesTo (directive : Directive) (source : Component) : Bool :=
  !directive.withinSpan && directive.target.toList.isPrefixOf source.path.toList

def isStart (c : Char) : Bool :=
  c.isAlphanum || 0x80 ≤ c.toNat || c = '-' || c = ':' || c = '_' || c = '['

def isTargetEnd (c : Char) : Bool := c = '=' || c = '['

/-- Reads the level after an equals sign; without one everything is logged. -/
def readLevel (text : List Char) : Except DirectiveFault Threshold :=
  if text.isEmpty then .ok Threshold.everything
  else
    match Threshold.read? (String.ofList text) with
    | some threshold => .ok threshold
    | none => .error .unknownLevel

/-- What follows the name of a span, perhaps with fields between braces, and its bracket. -/
def afterSpan? (chars : List Char) : Option (List Char) :=
  match chars.dropWhile fun c => c ≠ ']' ∧ c ≠ '\x7b' with
  | ']' :: rest => some rest
  | '\x7b' :: rest =>
      match rest.takeWhile (· ≠ '\x7d'), rest.dropWhile (· ≠ '\x7d') with
      | _ :: _, '\x7d' :: ']' :: rest => some rest
      | _, _ => none
  | _ => none

/-- Reads a directive: a target, a level, a target with a level, or one for a span. -/
def read (text : String) : Except DirectiveFault Directive :=
  let chars := text.toList
  let target := String.ofList (chars.takeWhile (!isTargetEnd ·))
  if !(chars.dropWhile Text.isBlank).head?.any isStart then .error .malformed
  else
    match chars.dropWhile (!isTargetEnd ·) with
    | '=' :: level => (readLevel level).map fun threshold => { target, threshold }
    | '[' :: span =>
        match afterSpan? span with
        | some [] => .ok { target, threshold := Threshold.everything, withinSpan := true }
        | some ('=' :: level) =>
            (readLevel level).map fun threshold => { target, threshold, withinSpan := true }
        | _ => .error .malformed
    | _ =>
        match Threshold.read? text with
        | some threshold => .ok { threshold }
        | none => .ok { target, threshold := Threshold.everything }

end Directive

structure Filter where
  directives : List Directive
  deriving DecidableEq, Repr

namespace Filter

def errorsOnly : Filter := ⟨[{ threshold := some .error }]⟩

/-- The filter of directives; without any only errors are logged. -/
def ofDirectives (directives : List Directive) : Filter :=
  if directives.isEmpty then errorsOnly else ⟨directives⟩

def deciding? (filter : Filter) (source : Component) : Option Directive :=
  (filter.directives.filter (·.appliesTo source)).foldl
    (fun best next =>
      match best with
      | none => some next
      | some best => if best.target.length ≤ next.target.length then some next else some best)
    none

def admits (filter : Filter) (event : Event) : Bool :=
  (filter.deciding? event.source).any (·.threshold.admits event.level)

/-- The texts between the commas of a list, without empty ones. -/
def parts (text : String) : List String := (text.splitOn ",").filter (· ≠ "")

def read? (text : String) : Option Filter :=
  ((parts text).mapM fun part => (Directive.read part).toOption).map ofDirectives

/-- Reads a filter, leaving out what is no directive, and tells what was left out. -/
def readLeniently (text : String) : Filter × List String :=
  let readings := (parts text).map fun part => (part, Directive.read part)
  (ofDirectives (readings.filterMap (·.2.toOption)),
    readings.filterMap fun (part, reading) =>
      match reading with
      | .ok _ => none
      | .error fault => some ("ignoring \x60" ++ part ++ "\x60: " ++ fault.message))

def variableName : String := "RUST_LOG"

/-- The filter for a level: the level for everything, and again for this program. -/
def levelText (level : String) : String := level ++ ",bing_tts=" ++ level

/-- The filter of an invocation, and what was left out of it: the one that the environment gives
if it is well-formed, else the one for the level in the settings. -/
def choose (environment : List (String × String)) (level : String) : Filter × List String :=
  match (environment.lookup variableName).bind read? with
  | some filter => (filter, [])
  | none => readLeniently (levelText level)

end Filter

end CloudSpeech.Log
