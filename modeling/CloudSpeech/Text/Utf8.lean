import CloudSpeech.Octets
/-!
# Reading UTF-8

A machine reads octets one by one.  It gives a character for every well-formed sequence and a gap
for every longest part that begins like a sequence and does not go on like one.  Strict reading
refuses gaps; lenient reading shows each as the replacement character.
-/

namespace CloudSpeech.Text.Utf8

structure Partial where
  /-- The bits read so far. -/
  bits : Nat
  /-- How many octets are still to come. -/
  due : Nat
  /-- The bounds of the next octet. -/
  low : UInt8 := 0x80
  high : UInt8 := 0xbf

/-- What a first octet begins: a complete character, a longer sequence, or nothing. -/
inductive Opening where
  | complete (c : Char)
  | longer (start : Partial)
  | gap

/-- What an octet begins.  The bounds of the second octet leave out longer spellings than needed,
surrogates and numbers beyond the last code point. -/
def opening (b : UInt8) : Opening :=
  if b < 0x80 then .complete (Char.ofNat b.toNat)
  else if b < 0xc2 then .gap
  else if b < 0xe0 then .longer { bits := b.toNat - 0xc0, due := 1 }
  else if b < 0xf0 then
    .longer { bits := b.toNat - 0xe0, due := 2, low := if b = 0xe0 then 0xa0 else 0x80,
              high := if b = 0xed then 0x9f else 0xbf }
  else if b < 0xf5 then
    .longer { bits := b.toNat - 0xf0, due := 3, low := if b = 0xf0 then 0x90 else 0x80,
              high := if b = 0xf4 then 0x8f else 0xbf }
  else .gap

/-- Reads octets, where a sequence may have begun.  A gap is `none`. -/
def scanFrom : Option Partial → Octets → List (Option Char)
  | none, [] => []
  | some _, [] => [none]
  | none, b :: rest =>
      match opening b with
      | .complete c => some c :: scanFrom none rest
      | .longer start => scanFrom (some start) rest
      | .gap => none :: scanFrom none rest
  | some begun, b :: rest =>
      if begun.low ≤ b && b ≤ begun.high then
        if begun.due ≤ 1 then
          some (Char.ofNat (begun.bits * 64 + (b.toNat - 0x80))) :: scanFrom none rest
        else
          scanFrom (some { bits := begun.bits * 64 + (b.toNat - 0x80), due := begun.due - 1 }) rest
      else
        match opening b with
        | .complete c => none :: some c :: scanFrom none rest
        | .longer start => none :: scanFrom (some start) rest
        | .gap => none :: none :: scanFrom none rest

/-- The characters and gaps of a sequence of octets. -/
def scan (octets : Octets) : List (Option Char) := scanFrom none octets

/-- The character that stands for a gap. -/
def replacement : Char := Char.ofNat 0xfffd

/-- The text of a sequence of octets, each gap replaced. -/
def lenient (octets : Octets) : String :=
  String.ofList ((scan octets).map fun found => found.getD replacement)

/-- The text of a sequence of octets, if it has no gap. -/
def strict? (octets : Octets) : Option String :=
  ((scan octets).mapM id).map String.ofList

end CloudSpeech.Text.Utf8
