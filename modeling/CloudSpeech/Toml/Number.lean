import CloudSpeech.Decimal.Whole
import CloudSpeech.Toml.Lexical
import CloudSpeech.Decimal.Real
import CloudSpeech.Text.Hexadecimal
/-!
# Numbers in TOML

Whole numbers are decimal, or in base sixteen, eight or two after a prefix; numbers with a
fraction or an exponent are rounded once.  Single underscores may stand between digits.
-/

namespace CloudSpeech.Toml

inductive Number where
  | integer (value : Int)
  | real (value : Decimal.Binary64)
  deriving DecidableEq, Repr

/-- The digits at the front, without the single underscores between them; nothing is read if an
underscore has no digit after it. -/
def readDigitsAfter (isDigit : Char → Bool) : List Char → Option (List Char × List Char)
  | [] => some ([], [])
  | '_' :: c :: rest =>
      if isDigit c then prependDigit c (readDigitsAfter isDigit rest) else none
  | ['_'] => none
  | c :: rest =>
      if isDigit c then prependDigit c (readDigitsAfter isDigit rest) else some ([], c :: rest)
where
  /-- Puts a digit in front of what was read. -/
  prependDigit (c : Char) : Option (List Char × List Char) → Option (List Char × List Char)
    | some (digits, rest) => some (c :: digits, rest)
    | none => none

/-- One digit or more at the front. -/
def readDigits (isDigit : Char → Bool) : List Char → Option (List Char × List Char)
  | [] => none
  | c :: rest =>
      if isDigit c then readDigitsAfter.prependDigit c (readDigitsAfter isDigit rest) else none

/-- The digits of a whole decimal number: a zero stands alone. -/
def readWhole : List Char → Option (List Char × List Char)
  | '0' :: rest => some (['0'], rest)
  | chars => readDigits Char.isDigit chars

/-- The digits after a point, if there is a point. -/
def readFractionDigits : List Char → Option (Option (List Char) × List Char)
  | '.' :: rest => (readDigits Char.isDigit rest).map fun (digits, rest) => (some digits, rest)
  | chars => some (none, chars)

/-- A sign, if there is one: whether the number is negative, and what follows. -/
def readSign : List Char → Bool × List Char
  | '-' :: rest => (true, rest)
  | '+' :: rest => (false, rest)
  | chars => (false, chars)

def readExponent : List Char → Option (Option Int × List Char)
  | c :: rest =>
      if c = 'e' ∨ c = 'E' then
        let (below, rest) := readSign rest
        (readDigits Char.isDigit rest).map fun (digits, rest) =>
          let size : Int := Decimal.digitsValue digits
          (some (if below then -size else size), rest)
      else some (none, c :: rest)
  | [] => some (none, [])

/-- A whole number, if it fits in sixty-four bits with a sign. -/
def fitting? (value : Int) : Option Number :=
  if -Decimal.signedBound ≤ value ∧ value < Decimal.signedBound then some (.integer value) else none

/-- A real number; one that is too large is refused, unless it is negative. -/
def bounded? (value : Decimal.Binary64) : Option Number :=
  if value = .infinite false then none else some (.real value)

/-- A decimal number after its sign. -/
def readDecimal (negative : Bool) (chars : List Char) : Option (Number × List Char) := do
  let (whole, rest) ← readWhole chars
  let (fraction, rest) ← readFractionDigits rest
  let (exponent, rest) ← readExponent rest
  let number ←
    match fraction, exponent with
    | none, none =>
        let size : Int := Decimal.digitsValue whole
        fitting? (if negative then -size else size)
    | fraction, exponent =>
        let places := fraction.getD []
        bounded? (Decimal.Binary64.ofDecimal negative (Decimal.digitsValue (whole ++ places))
          (exponent.getD 0 - places.length))
  pure (number, rest)

/-- A whole number in another base, after its prefix. -/
def readBased (base : Nat) (chars : List Char) : Option (Number × List Char) := do
  let (digits, rest) ← readDigits (fun c => (digit? c).isSome) chars
  let number ← fitting? (digits.foldl (fun n c => base * n + (digit? c).getD 0) 0 : Nat)
  pure (number, rest)
where
  digit? (c : Char) : Option Nat := (Text.hexValue? c).filter (· < base)

/-- The word for infinity or for no number, after its sign. -/
def readSpecial (negative : Bool) : List Char → Option (Number × List Char)
  | 'i' :: 'n' :: 'f' :: rest => some (.real (.infinite negative), rest)
  | 'n' :: 'a' :: 'n' :: rest => some (.real .nan, rest)
  | _ => none

def readNumber : List Char → Option (Number × List Char)
  | '0' :: 'x' :: rest => readBased 16 rest
  | '0' :: 'o' :: rest => readBased 8 rest
  | '0' :: 'b' :: rest => readBased 2 rest
  | chars =>
      let (negative, rest) := readSign chars
      match readSpecial negative rest with
      | some found => some found
      | none => readDecimal negative rest

end CloudSpeech.Toml
