import CloudSpeech.Text.Hexadecimal
import CloudSpeech.Text.Split
/-!
# Numeric host addresses

The two kinds of numeric addresses of hosts: four octets, which may be given in fewer and larger
parts and in several bases, and eight pieces of sixteen bits, of which one run of zeros may be
left out.
-/

namespace CloudSpeech.Url

namespace V4

/-- The number that digits of a base denote. -/
def digits? (base : Nat) (chars : List Char) : Option Nat :=
  chars.foldlM (fun value c =>
    (Text.hexValue? c).bind fun digit =>
      if digit < base then some (base * value + digit) else none) 0

/-- The number that a part denotes: base sixteen after `0x`, base eight after `0`, else base ten. -/
def part? : List Char → Option Nat
  | [] => none
  | '0' :: 'x' :: rest => digits? 16 rest
  | '0' :: 'X' :: rest => digits? 16 rest
  | '0' :: c :: rest => digits? 8 (c :: rest)
  | chars => digits? 10 chars

/-- The parts of a name between its dots, without an empty last one. -/
def labels (name : List Char) : List (List Char) :=
  let parts := Text.split (· = '.') name
  if 1 < parts.length ∧ parts.getLast? = some [] then parts.dropLast else parts

/-- Whether a name has to be an address, because its last label is a number. -/
def isMeant (name : List Char) : Bool :=
  match (labels name).getLast? with
  | some last => (!last.isEmpty && last.all Char.isDigit) || (part? last).isSome
  | none => false

/-- The address that parts denote.  The last part fills all the octets that are left. -/
def ofParts? (parts : List Nat) : Option Nat :=
  let front := parts.dropLast
  match parts.getLast? with
  | none => none
  | some last =>
      let room := Nat.pow 256 (4 - front.length)
      if 3 < front.length ∨ front.any (255 < ·) ∨ room ≤ last then none
      else some (front.foldl (fun value n => 256 * value + n) 0 * room + last)

def read? (name : List Char) : Option Nat := ((labels name).mapM part?).bind ofParts?

/-- An address as four numbers between dots. -/
def text (address : Nat) : List Char :=
  List.intercalate ['.'] ([3, 2, 1, 0].map fun i =>
    Nat.toDigits 10 (address / Nat.pow 256 i % 256))

/-- Reads four numbers between dots, each without leading zeros and below 256. -/
def readStrict? (chars : List Char) : Option (List Nat) :=
  let parts := Text.split (· = '.') chars
  if parts.length ≠ 4 then none
  else parts.mapM fun part =>
    (digits? 10 part).bind fun n => if Nat.toDigits 10 n = part ∧ n < 256 then some n else none

end V4

namespace V6

/-- A piece: one to four digits of base sixteen. -/
def piece? (chars : List Char) : Option Nat :=
  if chars.isEmpty ∨ 4 < chars.length then none else Text.hexNumber? chars

/-- The pieces that the parts between colons denote.  Only the last part may be four numbers
between dots, which make two pieces. -/
def pieces? : List (List Char) → Option (List Nat)
  | [] => some []
  | [last] =>
      if last.contains '.' then
        match V4.readStrict? last with
        | some [a, b, c, d] => some [256 * a + b, 256 * c + d]
        | _ => none
      else (piece? last).map ([·])
  | part :: rest => do
      let first ← piece? part
      let more ← pieces? rest
      pure (first :: more)

/-- The text on either side of the first two colons that stand together, if some do. -/
def splitGap : List Char → List Char × Option (List Char)
  | ':' :: ':' :: rest => ([], some rest)
  | c :: rest => ((c :: (splitGap rest).1), (splitGap rest).2)
  | [] => ([], none)

/-- The pieces of a text between colons; an empty text has none. -/
def side? (chars : List Char) : Option (List Nat) :=
  if chars.isEmpty then some [] else pieces? (Text.split (· = ':') chars)

/-- Reads an address of eight pieces.  Two colons stand for at least one piece of zero. -/
def read? (chars : List Char) : Option (List Nat) :=
  match splitGap chars with
  | (all, none) => (side? all).bind fun pieces => if pieces.length = 8 then some pieces else none
  | (front, some back) => do
      if front.contains '.' then none
      let before ← side? front
      let after ← side? back
      if before.length + after.length < 8 then
        pure (before ++ List.replicate (8 - (before.length + after.length)) 0 ++ after)
      else none

/-- The length of the run of zeros at the front. -/
def zeros (pieces : List Nat) : Nat := (pieces.takeWhile (· = 0)).length

/-- Where the longest run of zeros begins, the first of several, and how long it is. -/
def longestGap (pieces : List Nat) : Nat × Nat :=
  (List.range pieces.length).foldl
    (fun best i => if best.2 < zeros (pieces.drop i) then (i, zeros (pieces.drop i)) else best)
    (0, 0)

def joined (pieces : List Nat) : List Char := List.intercalate [':'] (pieces.map Text.hexadecimal)

/-- An address between brackets; the longest run of two or more zeros is left out. -/
def text (pieces : List Nat) : List Char :=
  let (start, size) := longestGap pieces
  let inside :=
    if size < 2 then joined pieces
    else joined (pieces.take start) ++ [':', ':'] ++ joined (pieces.drop (start + size))
  ['['] ++ inside ++ [']']

end V6

end CloudSpeech.Url
