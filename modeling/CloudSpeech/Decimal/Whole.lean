/-!
# Whole numbers in decimal

Reading a whole number of limited size from its decimal digits.  A plus sign may stand in front,
and any number of zeros.  When a text is refused, the reason is the first one met from left to
right.
-/

namespace CloudSpeech.Decimal

inductive ReadFault where
  | empty
  | invalidDigit
  | tooLarge
  deriving DecidableEq, Repr

def ReadFault.message : ReadFault → String
  | empty => "cannot parse integer from empty string"
  | invalidDigit => "invalid digit found in string"
  | tooLarge => "number too large to fit in target type"

def digitValue? (c : Char) : Option Nat :=
  if c.isDigit then some (c.toNat - '0'.toNat) else none

/-- Reads digits after a number already read; no number may reach `bound`. -/
def readDigits (bound : Nat) (value : Nat) : List Char → Except ReadFault Nat
  | [] => .ok value
  | c :: rest =>
      match digitValue? c with
      | none => .error .invalidDigit
      | some digit =>
          if 10 * value + digit < bound then readDigits bound (10 * value + digit) rest
          else .error .tooLarge

def readNatural (bound : Nat) : List Char → Except ReadFault Nat
  | [] => .error .empty
  | ['+'] => .error .invalidDigit
  | '+' :: digits => readDigits bound 0 digits
  | digits => readDigits bound 0 digits

/-- Reads a whole number of sixty-four bits without a sign bit. -/
def readUnsigned (text : String) : Except ReadFault Nat := readNatural UInt64.size text.toList

/-- The number of values of sixty-four bits with a sign bit that are not negative. -/
def signedBound : Nat := UInt64.size / 2

/-- Reads a whole number of sixty-four bits with a sign bit. -/
def readSigned? (text : String) : Option Int :=
  match text.toList with
  | ['-'] => none
  | '-' :: digits => (readDigits (signedBound + 1) 0 digits).toOption.map fun n => -(n : Int)
  | chars => (readNatural signedBound chars).toOption.map fun n => (n : Int)

end CloudSpeech.Decimal
