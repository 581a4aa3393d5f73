import CloudSpeech.Decimal.Whole
/-!
# Key paths

A key of a source may be a path: names with dots between them, each perhaps followed by subscripts
in brackets.  A key that is no path is a name as a whole.
-/

namespace CloudSpeech.Settings

inductive Step where
  /-- To what stands under a name in a table. -/
  | name (key : String)
  /-- To an item of an array; a negative index counts from the end. -/
  | item (index : Int)
  deriving DecidableEq, Repr

/-- A path: a name in the root table, and the steps that follow. -/
structure KeyPath where
  root : String
  steps : List Step := []
  deriving DecidableEq, Repr

namespace KeyPath

def isNameChar (c : Char) : Bool := c.isAlphanum || c = ' ' || c = '_' || c = '-'

/-- A name at the front, and what follows it. -/
def readName (chars : List Char) : Option (String × List Char) :=
  let name := chars.takeWhile isNameChar
  if name = [] then none else some (String.ofList name, chars.dropWhile isNameChar)

/-- Whether a character may stand around an index. -/
def isSpace (c : Char) : Bool := c = ' ' || c = '\t'

/-- An index of sixty-four bits, from its sign and digits. -/
def index? (negative : Bool) (digits : List Char) : Option Int :=
  let size := digits.foldl (fun n c => 10 * n + (c.toNat - '0'.toNat)) 0
  if digits = [] then none
  else if negative then (if size ≤ Decimal.signedBound then some (-(size : Int)) else none)
  else if size < Decimal.signedBound then some size else none

/-- A subscript, and what follows it; the opening bracket has been read. -/
def readSubscript (chars : List Char) : Option (Int × List Char) :=
  let (negative, rest) : Bool × List Char :=
    match chars.dropWhile isSpace with
    | '-' :: rest => (true, rest)
    | rest => (false, rest)
  match index? negative (rest.takeWhile Char.isDigit),
      (rest.dropWhile Char.isDigit).dropWhile isSpace with
  | some index, ']' :: rest => some (index, rest)
  | _, _ => none

def readStep : List Char → Option (Step × List Char)
  | '.' :: rest => (readName rest).map fun (key, rest) => (.name key, rest)
  | '[' :: rest => (readSubscript rest).map fun (index, rest) => (.item index, rest)
  | _ => none

def readSteps (chars : List Char) : Option (List Step) :=
  if chars = [] then some []
  else
    match readStep chars with
    | none => none
    | some (step, rest) =>
        if rest.length < chars.length then (readSteps rest).map (step :: ·) else none
termination_by chars.length

/-- The path that a key is. -/
def ofKey (key : String) : KeyPath :=
  match readName key.toList with
  | none => ⟨key, []⟩
  | some (root, rest) =>
      match readSteps rest with
      | some steps => ⟨root, steps⟩
      | none => ⟨key, []⟩

end KeyPath

end CloudSpeech.Settings
