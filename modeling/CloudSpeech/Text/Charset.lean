import CloudSpeech.Text.Utf8
/-!
# Encodings of text

Text that comes from elsewhere is in one of many encodings, of which three are known here.  A mark
at its front tells which, or else a label that came with it; without either it is UTF-8.  What is
malformed is shown as the replacement character.
-/

namespace CloudSpeech.Text

inductive Charset where
  | utf8
  | utf16 (bigEndian : Bool)
  /-- One octet a character, the letters of western European languages. -/
  | western
  deriving DecidableEq, Repr

namespace Charset

def westernLabels : List String := [
  "ansi_x3.4-1968", "ascii", "cp1252", "cp819", "csisolatin1", "ibm819", "iso-8859-1", "iso-ir-100",
  "iso8859-1", "iso88591", "iso_8859-1", "iso_8859-1:1987", "l1", "latin1", "us-ascii",
  "windows-1252", "x-cp1252"]

/-- The labels of UTF-16 with the low octet first. -/
def littleLabels : List String := [
  "csunicode", "iso-10646-ucs-2", "ucs-2", "unicode", "unicodefeff", "utf-16", "utf-16le"]

/-- The labels of UTF-16 with the high octet first. -/
def bigLabels : List String := ["unicodefffe", "utf-16be"]

/-- Whether a character around a label is not part of it. -/
def isMargin (c : Char) : Bool :=
  c = ' ' || c = '\t' || c = '\n' || c = '\r' || c.toNat = 12

/-- The encoding with a label; a label that is not known here is passed over. -/
def ofLabel (label : String) : Charset :=
  let inner := ((label.toList.dropWhile isMargin).reverse.dropWhile isMargin).reverse
  let name := String.ofList (inner.map Char.toLower)
  if westernLabels.contains name then western
  else if littleLabels.contains name then utf16 false
  else if bigLabels.contains name then utf16 true
  else utf8

/-- The encoding that a mark at the front tells, and what follows the mark. -/
def marked? : Octets → Option (Charset × Octets)
  | 0xef :: 0xbb :: 0xbf :: rest => some (utf8, rest)
  | 0xff :: 0xfe :: rest => some (utf16 false, rest)
  | 0xfe :: 0xff :: rest => some (utf16 true, rest)
  | _ => none

/-- The characters of the western encoding from 0x80 to 0x9f. -/
def westernMiddle : List Nat := [
  0x20ac, 0x81, 0x201a, 0x192, 0x201e, 0x2026, 0x2020, 0x2021, 0x2c6, 0x2030, 0x160, 0x2039, 0x152,
  0x8d, 0x17d, 0x8f, 0x90, 0x2018, 0x2019, 0x201c, 0x201d, 0x2022, 0x2013, 0x2014, 0x2dc, 0x2122,
  0x161, 0x203a, 0x153, 0x9d, 0x17e, 0x178]

/-- The character of an octet in the western encoding. -/
def westernChar (b : UInt8) : Char :=
  if 0x80 ≤ b ∧ b < 0xa0 then Char.ofNat (westernMiddle.getD (b.toNat - 0x80) 0xfffd)
  else Char.ofNat b.toNat

/-- The units of sixteen bits that octets make, and whether an octet is left over. -/
def units (bigEndian : Bool) : Octets → List Nat × Bool
  | a :: b :: rest =>
      let value := if bigEndian then a.toNat * 256 + b.toNat else b.toNat * 256 + a.toNat
      let (more, odd) := units bigEndian rest
      (value :: more, odd)
  | [_] => ([], true)
  | [] => ([], false)

/-- The characters that units make, where `high` is the first half of a character that waits for
the second. -/
def ofUnits (odd : Bool) : Option Nat → List Nat → List Char
  | none, [] => if odd then [Utf8.replacement] else []
  | some _, [] => [Utf8.replacement]
  | high, unit :: rest =>
      let isHigh := 0xd800 ≤ unit ∧ unit < 0xdc00
      let isLow := 0xdc00 ≤ unit ∧ unit < 0xe000
      match high with
      | some first =>
          if isLow then
            Char.ofNat (0x10000 + (first - 0xd800) * 0x400 + (unit - 0xdc00))
              :: ofUnits odd none rest
          else if isHigh then Utf8.replacement :: ofUnits odd (some unit) rest
          else Utf8.replacement :: Char.ofNat unit :: ofUnits odd none rest
      | none =>
          if isHigh then ofUnits odd (some unit) rest
          else if isLow then Utf8.replacement :: ofUnits odd none rest
          else Char.ofNat unit :: ofUnits odd none rest

/-- The text of octets in an encoding. -/
def decodeAs (charset : Charset) (octets : Octets) : String :=
  match charset with
  | utf8 => Utf8.lenient octets
  | western => String.ofList (octets.map westernChar)
  | utf16 bigEndian =>
      String.ofList (ofUnits (units bigEndian octets).2 none (units bigEndian octets).1)

/-- The text of octets that came with a label, or without one.  A mark at the front goes first. -/
def decode (label : Option String) (octets : Octets) : String :=
  match marked? octets with
  | some (charset, rest) => charset.decodeAs rest
  | none => ((label.map ofLabel).getD utf8).decodeAs octets

end Charset

end CloudSpeech.Text
