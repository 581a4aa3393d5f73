import CloudSpeech.Decimal.Whole
import CloudSpeech.Json.Value
import CloudSpeech.Text.Hexadecimal
/-!
# Strings and numbers in a JSON text

A string or number can be read for its value or just passed over.  Reading refuses more: a lone
half of a surrogate pair, and a number that is too large.  A text that ends too early is told
apart from one that goes wrong.
-/

namespace CloudSpeech.Json

inductive Flaw where
  /-- It ends too early. -/
  | truncated
  /-- It goes on in a way that it cannot. -/
  | malformed
  deriving DecidableEq, Repr

/-- A flaw as it is met by reading and by passing over. -/
structure Fault where
  reading : Flaw
  skipping : Flaw
  deriving DecidableEq, Repr

def Fault.same (flaw : Flaw) : Fault := ⟨flaw, flaw⟩

/-- A part of a string: a character, or a unit of sixteen bits given by its number. -/
inductive Piece where
  | char (c : Char)
  | unit (n : Nat)
  deriving DecidableEq, Repr

/-- How a string ends: with its closing quote, or not at all. -/
inductive Closing where
  | closed (rest : List Char)
  | open (flaw : Flaw)
  deriving DecidableEq, Repr

def hexUnit? (a b c d : Char) : Option Nat := Text.hexNumber? [a, b, c, d]

/-- The character that a letter after a backslash stands for. -/
def simpleEscape? : Char → Option Char
  | '"' => some '"'
  | '\\' => some '\\'
  | '/' => some '/'
  | 'b' => some (Char.ofNat 8)
  | 'f' => some (Char.ofNat 12)
  | 'n' => some '\n'
  | 'r' => some '\r'
  | 't' => some '\t'
  | _ => none

/-- Cuts a string into its parts; the opening quote has been read. -/
def scanString : List Char → List Piece × Closing
  | [] => ([], .open .truncated)
  | '"' :: rest => ([], .closed rest)
  | ['\\'] => ([], .open .truncated)
  | '\\' :: 'u' :: a :: b :: c :: d :: rest =>
      match hexUnit? a b c d with
      | some n => ((.unit n :: (scanString rest).1), (scanString rest).2)
      | none => ([], .open .malformed)
  | '\\' :: 'u' :: few =>
      -- Four octets are wanted, whatever they are.
      ([], .open (if (String.ofList few).utf8ByteSize < 4 then .truncated else .malformed))
  | '\\' :: letter :: rest =>
      match simpleEscape? letter with
      | some c => ((.char c :: (scanString rest).1), (scanString rest).2)
      | none => ([], .open .malformed)
  | c :: rest =>
      if c.toNat < 32 then ([], .open .malformed)
      else ((.char c :: (scanString rest).1), (scanString rest).2)

def isHighHalf (n : Nat) : Bool := 0xd800 ≤ n && n < 0xdc00

def isLowHalf (n : Nat) : Bool := 0xdc00 ≤ n && n < 0xe000

def joinHalves (high low : Nat) : Char :=
  Char.ofNat (0x10000 + (high - 0xd800) * 0x400 + (low - 0xdc00))

/-- The text of a string from its parts, where `flaw` tells how it failed to end, if it did. -/
def joinPieces (flaw : Option Flaw) : List Piece → Except Flaw (List Char)
  | [] => match flaw with
    | none => .ok []
    | some flaw => .error flaw
  | .char c :: rest => (joinPieces flaw rest).map (c :: ·)
  | .unit n :: rest =>
      if isLowHalf n then .error .malformed
      else if isHighHalf n then
        match rest with
        | .unit m :: rest =>
            if isLowHalf m then (joinPieces flaw rest).map (joinHalves n m :: ·)
            else .error .malformed
        | .char _ :: _ => .error .malformed
        | [] => .error (flaw.getD .malformed)
      else (joinPieces flaw rest).map (Char.ofNat n :: ·)

structure NumberText where
  negative : Bool
  whole : List Char
  /-- The digits after the point, if there is one. -/
  fraction : List Char := []
  pointed : Bool := false
  /-- Whether the exponent is negative, and its digits. -/
  exponent : Option (Bool × List Char) := none
  deriving DecidableEq, Repr

/-- The flaw of a number that lacks a digit: reading tells the end of the text apart. -/
def missingDigit (rest : List Char) : Fault :=
  ⟨if rest = [] then .truncated else .malformed, .malformed⟩

def scanExponent : List Char → Except Fault (Option (Bool × List Char) × List Char)
  | [] => .ok (none, [])
  | c :: rest =>
      if c = 'e' ∨ c = 'E' then
        let (negative, rest) : Bool × List Char :=
          match rest with
          | '-' :: rest => (true, rest)
          | '+' :: rest => (false, rest)
          | rest => (false, rest)
        if rest.takeWhile Char.isDigit = [] then .error (missingDigit rest)
        else .ok (some (negative, rest.takeWhile Char.isDigit), rest.dropWhile Char.isDigit)
      else .ok (none, c :: rest)

def scanFraction :
    List Char → Except Fault ((Bool × List Char) × Option (Bool × List Char) × List Char)
  | '.' :: rest =>
      if rest.takeWhile Char.isDigit = [] then .error (missingDigit rest)
      else (scanExponent (rest.dropWhile Char.isDigit)).map
        fun found => ((true, rest.takeWhile Char.isDigit), found)
  | rest => (scanExponent rest).map fun found => ((false, []), found)

/-- A number at the front of a text; a sign has been read.  A zero in front is the only digit
before the point. -/
def scanUnsigned (negative : Bool) (chars : List Char) : Except Fault (NumberText × List Char) :=
  let whole := chars.takeWhile Char.isDigit
  if whole = [] then .error (missingDigit chars)
  else if whole.head? = some '0' ∧ whole.length ≠ 1 then .error (.same .malformed)
  else
    (scanFraction (chars.dropWhile Char.isDigit)).map fun ((pointed, fraction), exponent, rest) =>
    (⟨negative, whole, fraction, pointed, exponent⟩, rest)

def scanNumber : List Char → Except Fault (NumberText × List Char)
  | '-' :: rest => scanUnsigned true rest
  | chars => scanUnsigned false chars

namespace NumberText

/-- Adds digits to a number as long as it fits in sixty-four bits; gives what is left over. -/
def accumulate (value : Nat) : List Char → Nat × List Char
  | [] => (value, [])
  | c :: rest =>
      if 10 * value + (c.toNat - '0'.toNat) < UInt64.size then
        accumulate (10 * value + (c.toNat - '0'.toNat)) rest
      else (value, c :: rest)

/-- A magnitude times a power of ten, in steps of at most `1e308`; refused if it is infinite. -/
def scale (value : Decimal.Binary64) (exponent : Int) : Option Decimal.Binary64 :=
  if exponent.natAbs ≤ 308 then
    if 0 ≤ exponent then
      let product := value.timesTenTo exponent.toNat
      if product.isInfinite then none else some product
    else some (value.overTenTo (-exponent).toNat)
  else if value.isZero then some value
  else if 0 ≤ exponent then none
  else scale (value.overTenTo 308) (exponent + 308)
termination_by (-exponent).toNat

/-- The limits of an exponent of thirty-two bits. -/
def clampExponent (exponent : Int) : Int := max (-2147483648) (min exponent 2147483647)

/-- A number from its significant digits and its power of ten. -/
def ofParts (negative : Bool) (significand : Nat) (exponent : Int) : Except Flaw Number :=
  match scale (Decimal.Binary64.ofNat significand) exponent with
  | none => .error .malformed
  | some value => .ok (.real (if negative then value.negate else value))

/-- The number that a text denotes.  Whole numbers are exact as long as they fit; all others are
rounded from the first digits that fit in sixty-four bits. -/
def value (text : NumberText) : Except Flaw Number :=
  let (whole, left) := accumulate 0 text.whole
  let (significand, unread) := accumulate whole text.fraction
  let place : Int := (left.length : Int) - (text.fraction.length - unread.length : Nat)
  match text.exponent with
  | some (below, digits) =>
      let size := digits.foldl (fun n c => 10 * n + (c.toNat - '0'.toNat)) 0
      if size < 2147483648 then
        ofParts text.negative significand
          (clampExponent (if below then place - size else place + size))
      else if significand ≠ 0 ∧ ¬ below then .error .malformed
      else .ok (.real (Decimal.Binary64.zero text.negative))
  | none =>
      if text.pointed ∨ left ≠ [] then ofParts text.negative significand place
      else if ¬ text.negative then .ok (.natural significand)
      else if significand = 0 ∨ Decimal.signedBound < significand then
        .ok (.real (Decimal.Binary64.ofNat significand).negate)
      else .ok (.negative significand)

end NumberText

end CloudSpeech.Json
