/-!
# Floating point numbers

Binary numbers with fifty-three significant bits.  A finite number is a sign, a whole mantissa and
a power of two; every operation computes the exact quotient of whole numbers and rounds it once,
to the nearest number and from the middle to the even mantissa.
-/

namespace CloudSpeech.Decimal

inductive Binary64 where
  | nan
  | infinite (negative : Bool)
  /-- The number `± mantissa * 2 ^ exponent`. -/
  | finite (negative : Bool) (mantissa : Nat) (exponent : Int)
  deriving DecidableEq, Repr

namespace Binary64

def minExponent : Int := -1074

def maxExponent : Int := 971

/-- The least mantissa of full width. -/
def hidden : Nat := Nat.pow 2 52

def zero (negative : Bool) : Binary64 := .finite negative 0 minExponent

/-- The quotient rounded to the nearest whole number, from the middle to the even one. -/
def divideEven (num den : Nat) : Nat :=
  let quotient := num / den
  let twice := 2 * (num % den)
  if twice < den then quotient
  else if den < twice then quotient + 1
  else if quotient % 2 = 0 then quotient else quotient + 1

/-- The exponent of the last place of a quotient written with fifty-three bits. -/
def lastPlace (num den : Nat) : Int :=
  let guess : Int := (num.log2 : Int) - den.log2
  let reached :=
    if 0 ≤ guess then den * Nat.pow 2 guess.toNat ≤ num
    else den ≤ num * Nat.pow 2 (-guess).toNat
  max minExponent ((if reached then guess else guess - 1) - 52)

/-- The number nearest to a quotient. -/
def ofRatio (negative : Bool) (num den : Nat) : Binary64 :=
  if num = 0 then zero negative
  else
    let place := lastPlace num den
    let mantissa :=
      if 0 ≤ place then divideEven num (den * Nat.pow 2 place.toNat)
      else divideEven (num * Nat.pow 2 (-place).toNat) den
    let (mantissa, place) :=
      if mantissa = 2 * hidden then (hidden, place + 1) else (mantissa, place)
    if maxExponent < place then .infinite negative else .finite negative mantissa place

/-- How many decimal digits a number has; zero has one. -/
def digitCount (n : Nat) : Nat := (Nat.toDigits 10 n).length

/-- The number nearest to `digits * 10 ^ exponent`.  What is far too large or too small is decided
by its length alone. -/
def ofDecimal (negative : Bool) (digits : Nat) (exponent : Int) : Binary64 :=
  if digits = 0 then zero negative
  else
    let magnitude := exponent + digitCount digits
    if 310 < magnitude then .infinite negative
    else if magnitude < -330 then zero negative
    else if 0 ≤ exponent then ofRatio negative (digits * Nat.pow 10 exponent.toNat) 1
    else ofRatio negative digits (Nat.pow 10 (-exponent).toNat)

def ofNat (n : Nat) : Binary64 := ofRatio false n 1

/-- The magnitude of a finite number as a quotient. -/
def ratio (mantissa : Nat) (exponent : Int) : Nat × Nat :=
  if 0 ≤ exponent then (mantissa * Nat.pow 2 exponent.toNat, 1)
  else (mantissa, Nat.pow 2 (-exponent).toNat)

def negate : Binary64 → Binary64
  | nan => nan
  | infinite negative => infinite !negative
  | finite negative mantissa exponent => finite (!negative) mantissa exponent

/-- The product with a positive power of ten, itself rounded first. -/
def timesTenTo (x : Binary64) (power : Nat) : Binary64 :=
  match x, ofDecimal false 1 power with
  | .finite negative m e, .finite _ m' e' =>
      ofRatio negative ((ratio m e).1 * (ratio m' e').1) ((ratio m e).2 * (ratio m' e').2)
  | x, _ => x

/-- The quotient by a positive power of ten, itself rounded first. -/
def overTenTo (x : Binary64) (power : Nat) : Binary64 :=
  match x, ofDecimal false 1 power with
  | .finite negative m e, .finite _ m' e' =>
      ofRatio negative ((ratio m e).1 * (ratio m' e').2) ((ratio m e).2 * (ratio m' e').1)
  | x, _ => x

def isZero : Binary64 → Bool
  | finite _ 0 _ => true
  | _ => false

def isInfinite : Binary64 → Bool
  | infinite _ => true
  | _ => false

/-- The nearest whole number from zero to `2 ^ 64 - 1`, where the middle goes up and what is no
number counts as zero. -/
def toUnsigned : Binary64 → Nat
  | nan => 0
  | infinite negative => if negative then 0 else UInt64.size - 1
  | finite true _ _ => 0
  | finite false mantissa exponent =>
      let (num, den) := ratio mantissa exponent
      min ((2 * num + den) / (2 * den)) (UInt64.size - 1)

end Binary64

end CloudSpeech.Decimal
