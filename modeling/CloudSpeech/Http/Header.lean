import CloudSpeech.Octets
/-!
# Headers

A header is a name and a value.  Upper and lower case make no difference to a name.  A value is a
sequence of octets without control characters, so that it cannot end the header and begin another.
-/

namespace CloudSpeech.Http

structure Header where
  name : String
  value : Octets
  deriving DecidableEq, Repr

namespace Header

/-- Whether an octet may stand in a value: all but control characters, of which the tab may. -/
def isPlain (b : UInt8) : Bool := b = 9 || (0x20 ≤ b && b ≠ 0x7f)

def isValid (header : Header) : Bool := header.value.all isPlain

def ofText (name value : String) : Header := ⟨name, Octets.ofText value⟩

/-- Whether two names are the same but for case. -/
def sameName (a b : String) : Bool := a.toList.map Char.toLower = b.toList.map Char.toLower

def first? (headers : List Header) (name : String) : Option Octets :=
  (headers.find? fun header => sameName header.name name).map (·.value)

/-- Whether an octet is a visible character of ASCII, a space or a tab. -/
def isVisible (b : UInt8) : Bool := b = 9 || (0x20 ≤ b && b < 0x7f)

/-- A value as a text, if all of it is visible. -/
def text? (value : Octets) : Option String :=
  if value.all isVisible then some (String.ofList (value.map fun b => Char.ofNat b.toNat)) else none

/-- The value of the first header with a name, if all of it is visible. -/
def firstText? (headers : List Header) (name : String) : Option String :=
  (first? headers name).bind text?

end Header

end CloudSpeech.Http
