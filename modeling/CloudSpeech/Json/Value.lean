import CloudSpeech.Decimal.Shortest
/-!
# JSON values

The values that a JSON text denotes, and their indented text.
-/

namespace CloudSpeech.Json

/-- A number: whole as long as its text is whole and it fits in sixty-four bits. -/
inductive Number where
  | natural (value : Nat)
  /-- A whole number below zero, given by its magnitude. -/
  | negative (magnitude : Nat)
  | real (value : Decimal.Binary64)
  deriving DecidableEq, Repr

/-- A JSON value.  The members of an object keep the order of the text. -/
inductive Value where
  | null
  | bool (value : Bool)
  | number (value : Number)
  | string (value : String)
  | array (items : List Value)
  | object (members : List (String × Value))

def hexDigit (n : Nat) : Char := (Nat.toDigits 16 n).getD 0 '0'

/-- A character as it stands in a string. -/
def stringChar (c : Char) : List Char :=
  if c = '"' || c = '\\' then ['\\', c]
  else if c = '\n' then ['\\', 'n']
  else if c = '\r' then ['\\', 'r']
  else if c = '\t' then ['\\', 't']
  else if c.toNat = 8 then ['\\', 'b']
  else if c.toNat = 12 then ['\\', 'f']
  else if c.toNat < 32 then ['\\', 'u', '0', '0', hexDigit (c.toNat / 16), hexDigit (c.toNat % 16)]
  else [c]

def stringText (text : String) : String :=
  String.ofList ('"' :: text.toList.flatMap stringChar ++ ['"'])

def Number.text : Number → String
  | natural value => toString value
  | negative magnitude => "-" ++ toString magnitude
  | real value => value.reportText

namespace Value

/-- A line break and the indentation of a level. -/
def newline (level : Nat) : String := "\n" ++ String.ofList (List.replicate (2 * level) ' ')

/-- Lines between brackets, or the bare brackets if there are no lines. -/
def bracket (left right : String) (level : Nat) (lines : List String) : String :=
  match lines with
  | [] => left ++ right
  | lines =>
      left ++ newline (level + 1) ++ String.intercalate ("," ++ newline (level + 1)) lines
        ++ newline level ++ right

mutual

/-- The indented text of a value that stands at a level. -/
def prettyAt (level : Nat) : Value → String
  | null => "null"
  | bool value => if value then "true" else "false"
  | number value => value.text
  | string value => stringText value
  | array items => bracket "[" "]" level (prettyItems (level + 1) items)
  | object members => bracket "\x7b" "\x7d" level (prettyMembers (level + 1) members)

def prettyItems (level : Nat) : List Value → List String
  | [] => []
  | item :: rest => prettyAt level item :: prettyItems level rest

def prettyMembers (level : Nat) : List (String × Value) → List String
  | [] => []
  | (key, value) :: rest =>
      (stringText key ++ ": " ++ prettyAt level value) :: prettyMembers level rest

end

/-- The indented text of a value, two spaces a level. -/
def pretty (value : Value) : String := prettyAt 0 value

end Value

end CloudSpeech.Json
