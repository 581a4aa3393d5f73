import CloudSpeech.Decimal.Binary64
/-!
# Decimals with a fraction or an exponent

Reading a floating point number from text.  The words for infinity and for what is no number count
in any case; otherwise there is at least one digit on one side of the point, and the value is
rounded once.
-/

namespace CloudSpeech.Decimal

/-- The digits at the front of a text, and what follows them. -/
def spanDigits (chars : List Char) : List Char × List Char :=
  (chars.takeWhile Char.isDigit, chars.dropWhile Char.isDigit)

def digitsValue (digits : List Char) : Nat :=
  digits.foldl (fun value c => 10 * value + (c.toNat - '0'.toNat)) 0

/-- An exponent, if the text is one: a letter, perhaps a sign, and digits.  No text at all is the
exponent zero. -/
def readExponent? : List Char → Option Int
  | [] => some 0
  | c :: rest =>
      if c = 'e' ∨ c = 'E' then
        let (negative, digits) : Bool × List Char :=
          match rest with
          | '-' :: digits => (true, digits)
          | '+' :: digits => (false, digits)
          | digits => (false, digits)
        if digits ≠ [] ∧ digits.all Char.isDigit then
          some (if negative then -(digitsValue digits : Int) else digitsValue digits)
        else none
      else none

/-- A number without a sign. -/
def readMagnitude? (negative : Bool) (chars : List Char) : Option Binary64 :=
  let word := String.ofList (chars.map Char.toLower)
  if word = "inf" ∨ word = "infinity" then some (.infinite negative)
  else if word = "nan" then some .nan
  else
    let (whole, rest) := spanDigits chars
    let (fraction, rest) : List Char × List Char :=
      match rest with
      | '.' :: rest => spanDigits rest
      | rest => ([], rest)
    if whole = [] ∧ fraction = [] then none
    else
      (readExponent? rest).map fun exponent =>
        Binary64.ofDecimal negative (digitsValue (whole ++ fraction)) (exponent - fraction.length)

def readReal? (text : String) : Option Binary64 :=
  match text.toList with
  | '-' :: rest => readMagnitude? true rest
  | '+' :: rest => readMagnitude? false rest
  | chars => readMagnitude? false chars

end CloudSpeech.Decimal
