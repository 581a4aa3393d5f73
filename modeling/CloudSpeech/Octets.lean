/-!
# Octets

Audio, request bodies and header values are sequences of octets.  Text becomes octets through its
UTF-8 encoding.
-/

namespace CloudSpeech

abbrev Octets := List UInt8

namespace Octets

/-- The UTF-8 encoding of a text. -/
def ofText (text : String) : Octets := text.toList.flatMap String.utf8EncodeChar

@[simp] theorem ofText_append (s t : String) : ofText (s ++ t) = ofText s ++ ofText t := by
  simp [ofText]

end Octets

end CloudSpeech
