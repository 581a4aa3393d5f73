import CloudSpeech.Octets
import CloudSpeech.Text.Hexadecimal
/-!
# Percent encoding

In a URL an octet may be written as a percent sign and two digits of base sixteen.  Which
characters have to be written so depends on the part of the URL; characters outside ASCII always
are.
-/

namespace CloudSpeech.Url.Percent

/-- A digit of base sixteen with a capital letter. -/
def digit (n : Nat) : Char :=
  if n < 10 then Char.ofNat ('0'.toNat + n) else Char.ofNat ('A'.toNat + (n - 10))

/-- An octet as a percent sign and two digits. -/
def encodeOctet (b : UInt8) : List Char := ['%', digit (b.toNat / 16), digit (b.toNat % 16)]

/-- A text in which the characters to be escaped are percent-encoded. -/
def encode (escapes : Char → Bool) (chars : List Char) : List Char :=
  chars.flatMap fun c =>
    if escapes c then (String.utf8EncodeChar c).flatMap encodeOctet else [c]

/-- The octets of a text in which every encoded octet is decoded. -/
def decode : List Char → Octets
  | '%' :: a :: b :: rest =>
      match Text.hexValue? a, Text.hexValue? b with
      | some high, some low => UInt8.ofNat (16 * high + low) :: decode rest
      | _, _ => 0x25 :: decode (a :: b :: rest)
  | c :: rest => String.utf8EncodeChar c ++ decode rest
  | [] => []
termination_by chars => chars.length

/-! ## The parts of a URL -/

/-- What is escaped where a text has no structure: control characters and what is not ASCII. -/
def inFree (c : Char) : Bool := c.toNat < 0x20 || 0x7e < c.toNat

def inFragment (c : Char) : Bool := inFree c || [' ', '"', '<', '>', '`'].contains c

def inQuery (c : Char) : Bool := inFree c || [' ', '"', '#', '<', '>'].contains c

def inSpecialQuery (c : Char) : Bool := inQuery c || c = '\x27'

def inPath (c : Char) : Bool := inFragment c || ['#', '?', '\x7b', '\x7d'].contains c

def inUserinfo (c : Char) : Bool :=
  inPath c || ['/', ':', ';', '=', '@', '[', '\\', ']', '^', '|'].contains c

end CloudSpeech.Url.Percent
