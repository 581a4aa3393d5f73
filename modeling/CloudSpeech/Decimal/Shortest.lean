import CloudSpeech.Decimal.Binary64
/-!
# Shortest decimals

A floating point number is written with the fewest decimal digits that read back as the same
number; of two such decimals the nearer one is taken.  How the digits are laid out is a matter of
the text they stand in.
-/

namespace CloudSpeech.Decimal

/-- A positive decimal: `digits * 10 ^ exponent`. -/
structure Scaled where
  digits : Nat
  exponent : Int
  deriving DecidableEq, Repr

/-- Which of two decimals at the same distance is taken. -/
inductive Tie where
  | up
  | even
  deriving DecidableEq, Repr

namespace Shortest

/-- The numbers that read back as `mantissa * 2 ^ exponent`, scaled by `2 ^ (2 - exponent)`: they
lie from `low` to `high`, ends included if `closed`. -/
structure Interval where
  low : Nat
  high : Nat
  closed : Bool

/-- The interval around a finite number that is not zero. -/
def interval (mantissa : Nat) (exponent : Int) : Interval where
  low := 4 * mantissa -
    (if mantissa = Binary64.hidden ∧ exponent ≠ Binary64.minExponent then 1 else 2)
  high := 4 * mantissa + 2
  closed := mantissa % 2 = 0

/-- The power of ten of the first digit of `num / den`. -/
def leading (num den : Nat) : Int :=
  if den ≤ num then (Binary64.digitCount (num / den) : Int) - 1
  else -(Binary64.digitCount ((den - 1) / num) : Int)

/-- Whether `candidate * unit` lies in the interval, where `unit` is the quotient `unitNum /
unitDen` in the scale of the interval. -/
def Interval.holds (i : Interval) (candidate unitNum unitDen : Nat) : Bool :=
  if i.closed then
    i.low * unitDen ≤ candidate * unitNum && candidate * unitNum ≤ i.high * unitDen
  else
    i.low * unitDen < candidate * unitNum && candidate * unitNum < i.high * unitDen

/-- The better of the two neighbours of a number on the grid of decimals with `count` digits, if
one of them reads back. -/
def onGrid (tie : Tie) (mantissa : Nat) (exponent : Int) (count : Nat) : Option Scaled :=
  let i := interval mantissa exponent
  let (num, den) := Binary64.ratio mantissa exponent
  let place := leading num den + 1 - count
  -- One unit of the grid, in the scale of the interval.
  let (tenNum, tenDen) : Nat × Nat :=
    if 0 ≤ place then (Nat.pow 10 place.toNat, 1) else (1, Nat.pow 10 (-place).toNat)
  let shift := 2 - exponent
  let (unitNum, unitDen) : Nat × Nat :=
    if 0 ≤ shift then (tenNum * Nat.pow 2 shift.toNat, tenDen)
    else (tenNum, tenDen * Nat.pow 2 (-shift).toNat)
  let below := 4 * mantissa * unitDen / unitNum
  let rest := 4 * mantissa * unitDen % unitNum
  let above := below + 1
  let lowHit := below ≠ 0 ∧ i.holds below unitNum unitDen
  let highHit := i.holds above unitNum unitDen
  let nearerAbove : Bool :=
    if 2 * rest = unitNum then (match tie with | .up => true | .even => below % 2 == 1)
    else decide (unitNum < 2 * rest)
  if lowHit then
    if highHit && nearerAbove then some ⟨above, place⟩ else some ⟨below, place⟩
  else if highHit then some ⟨above, place⟩ else none

/-- The shortest decimal with at least `count` and fewer than `count + more` digits, if there is
one. -/
def search (tie : Tie) (mantissa : Nat) (exponent : Int) : (count more : Nat) → Option Scaled
  | _, 0 => none
  | count, more + 1 =>
      match onGrid tie mantissa exponent count with
      | some found => some found
      | none => search tie mantissa exponent (count + 1) more

end Shortest

/-- The shortest decimal of a finite number that is not zero.  Seventeen digits are always
enough. -/
def shortest (tie : Tie) (mantissa : Nat) (exponent : Int) : Scaled :=
  match Shortest.search tie mantissa exponent 1 17 with
  | some ⟨digits, place⟩ =>
      -- A neighbour above may have run over into one more digit, a zero.
      if digits % 10 = 0 then ⟨digits / 10, place + 1⟩ else ⟨digits, place⟩
  | none => ⟨mantissa, 0⟩

namespace Scaled

def digitChars (n : Nat) : List Char := Nat.toDigits 10 n

/-- A decimal in positional notation, without a point if it is whole. -/
def positional (d : Scaled) : List Char :=
  let chars := digitChars d.digits
  if 0 ≤ d.exponent then chars ++ List.replicate d.exponent.toNat '0'
  else
    let places := (-d.exponent).toNat
    if places < chars.length then
      chars.take (chars.length - places) ++ '.' :: chars.drop (chars.length - places)
    else '0' :: '.' :: List.replicate (places - chars.length) '0' ++ chars

/-- A decimal in scientific notation: one digit before the point, the exponent with its sign and
at least two digits. -/
def scientific (d : Scaled) : List Char :=
  let chars := digitChars d.digits
  let exponent := d.exponent + (chars.length - 1 : Nat)
  let size := digitChars exponent.natAbs
  let mantissa :=
    match chars with
    | [] => []
    | [c] => [c]
    | c :: rest => c :: '.' :: rest
  mantissa ++ 'e' :: (if exponent < 0 then '-' else '+')
    :: (List.replicate (2 - size.length) '0' ++ size)

end Scaled

namespace Binary64

/-- The sign of a negative number, and the text of its magnitude. -/
def signed (negative : Bool) (magnitude : List Char) : String :=
  String.ofList (if negative then '-' :: magnitude else magnitude)

/-- The plain text of a number: positional however long, and without a point if it is whole. -/
def plainText : Binary64 → String
  | nan => "NaN"
  | infinite negative => signed negative "inf".toList
  | finite negative mantissa exponent =>
      signed negative
        (if mantissa = 0 then ['0'] else (shortest .up mantissa exponent).positional)

/-- The plain text of a number, with a point also if it is whole. -/
def pointedText (x : Binary64) : String :=
  match x with
  | .finite .. => if x.plainText.toList.contains '.' then x.plainText else x.plainText ++ ".0"
  | _ => x.plainText

/-- The text of a number in a report on a JSON text: positional with a point from `1e-5` up to
`1e16`, scientific beyond. -/
def reportText (x : Binary64) : String :=
  match x with
  | .finite negative mantissa exponent =>
      if mantissa = 0 then x.pointedText
      else
        let d := shortest .even mantissa exponent
        let first := d.exponent + ((Scaled.digitChars d.digits).length - 1 : Nat)
        if -5 ≤ first ∧ first < 16 then
          signed negative (if 0 ≤ d.exponent then d.positional ++ ['.', '0'] else d.positional)
        else signed negative d.scientific
  | _ => x.plainText

end Binary64

end CloudSpeech.Decimal
