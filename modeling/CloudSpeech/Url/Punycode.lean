/-!
# Labels in ASCII letters

A label of a domain name that is not ASCII is spelled in ASCII letters: first the ASCII characters
of the label, then, in letters and digits, where the others go.  The others are put in by
ascending code point; what is written for each is how many places lie between it and the one
before, as a number of variable length whose digits' weights follow the numbers written so far.
-/

namespace CloudSpeech.Url.Punycode

/-- A digit of base 36: a letter, or from 26 on a decimal digit. -/
def digit (n : Nat) : Char :=
  if n < 26 then Char.ofNat ('a'.toNat + n) else Char.ofNat ('0'.toNat + (n - 26))

/-- From which value on the digit at a place says that another follows. -/
def threshold (place bias : Nat) : Nat := max 1 (min 26 (place - bias))

theorem threshold_bounds (place bias : Nat) :
    1 ≤ threshold place bias ∧ threshold place bias ≤ 26 := by
  unfold threshold; omega

/-- A number of variable length, the first digit first. -/
def number (bias place value : Nat) : List Char :=
  if value < threshold place bias then [digit value]
  else
    digit (threshold place bias
        + (value - threshold place bias) % (36 - threshold place bias))
      :: number bias (place + 36)
        ((value - threshold place bias) / (36 - threshold place bias))
termination_by value
decreasing_by
  have bounds := threshold_bounds place bias
  exact Nat.lt_of_le_of_lt (Nat.div_le_self _ _) (by omega)

/-- Divides a distance until it is small; the second number grows with each step. -/
def scale (distance steps : Nat) : Nat × Nat :=
  if distance ≤ 455 then (distance, steps) else scale (distance / 35) (steps + 36)
termination_by distance
decreasing_by exact Nat.div_lt_self (by omega) (by omega)

/-- The bias after a distance, where `count` characters are in place. -/
def adapt (distance count : Nat) (first : Bool) : Nat :=
  let halved := if first then distance / 700 else distance / 2
  let (rest, steps) := scale (halved + halved / count) 0
  steps + 36 * rest / (rest + 38)

/-- What has been written. -/
structure Progress where
  written : List Char
  /-- The places passed since the last number. -/
  distance : Nat := 0
  bias : Nat := 72
  /-- The characters in place. -/
  count : Nat

/-- Passes one character of the label while those with the code point `current` are put in. -/
def pass (basic current : Nat) (progress : Progress) (c : Char) : Progress :=
  if c.toNat < current then { progress with distance := progress.distance + 1 }
  else if c.toNat = current then
    { written := progress.written ++ number progress.bias 36 progress.distance
      distance := 0
      bias := adapt progress.distance (progress.count + 1) (progress.count = basic)
      count := progress.count + 1 }
  else progress

/-- Puts in the characters of the code points given, in ascending order; `next` is the least code
point not yet passed. -/
def insert (label : List Char) (basic : Nat) : Nat → List Nat → Progress → Progress
  | _, [], progress => progress
  | next, current :: rest, progress =>
      let begun :=
        { progress with distance := progress.distance + (current - next) * (progress.count + 1) }
      let done := label.foldl (pass basic current) begun
      insert label basic (current + 1) rest { done with distance := done.distance + 1 }

def isBasic (c : Char) : Bool := c.toNat < 0x80

/-- The spelling of a label, without the mark that tells that it is one. -/
def spell (label : List Char) : List Char :=
  let basic := label.filter isBasic
  let points := ((label.filter (!isBasic ·)).map Char.toNat).mergeSort.eraseDups
  let start := if basic.isEmpty then [] else basic ++ ['-']
  (insert label basic.length 0x80 points { written := start, count := basic.length }).written

/-- A label in ASCII letters. -/
def label (chars : List Char) : List Char :=
  if chars.all isBasic then chars else ['x', 'n', '-', '-'] ++ spell chars

end CloudSpeech.Url.Punycode
