/-!
# Escaped text

Inside a document the five characters with a meaning of their own are written as references to
predefined entities.  `escape` writes them, `unescape` reads them back in one pass from left to
right, and `IsEscaped` says which texts `escape` produces.
-/

namespace CloudSpeech.Ssml

/-- The characters that a document may not hold as plain text, each with its reference. -/
def references : List (Char × List Char) := [
  ('&', ['&', 'a', 'm', 'p', ';']),
  ('<', ['&', 'l', 't', ';']),
  ('>', ['&', 'g', 't', ';']),
  ('"', ['&', 'q', 'u', 'o', 't', ';']),
  ('\'', ['&', 'a', 'p', 'o', 's', ';'])]

/-- One character as it stands in a document. -/
def escapeChar : Char → List Char
  | '&' => ['&', 'a', 'm', 'p', ';']
  | '<' => ['&', 'l', 't', ';']
  | '>' => ['&', 'g', 't', ';']
  | '"' => ['&', 'q', 'u', 'o', 't', ';']
  | '\'' => ['&', 'a', 'p', 'o', 's', ';']
  | c => [c]

/-- A text as it stands in a document. -/
def escape (text : List Char) : List Char := text.flatMap escapeChar

/-- Whether a character is written as a reference. -/
def isReserved (c : Char) : Bool := c = '&' || c = '<' || c = '>' || c = '"' || c = '\''

/-- Puts the characters back in place of their references; all else stays. -/
def unescape : List Char → List Char
  | '&' :: 'a' :: 'm' :: 'p' :: ';' :: rest => '&' :: unescape rest
  | '&' :: 'l' :: 't' :: ';' :: rest => '<' :: unescape rest
  | '&' :: 'g' :: 't' :: ';' :: rest => '>' :: unescape rest
  | '&' :: 'q' :: 'u' :: 'o' :: 't' :: ';' :: rest => '"' :: unescape rest
  | '&' :: 'a' :: 'p' :: 'o' :: 's' :: ';' :: rest => '\'' :: unescape rest
  | c :: rest => c :: unescape rest
  | [] => []

/-- Escaped text holds none of the reserved characters except an ampersand that starts a
reference. -/
inductive IsEscaped : List Char → Prop
  | nil : IsEscaped []
  | plain {c : Char} {rest : List Char} (plain : isReserved c = false) (escaped : IsEscaped rest) :
      IsEscaped (c :: rest)
  | reference {c : Char} {spelling rest : List Char} (listed : (c, spelling) ∈ references)
      (escaped : IsEscaped rest) : IsEscaped (spelling ++ rest)

@[simp] theorem escape_nil : escape [] = [] := rfl

@[simp] theorem escape_cons (c : Char) (text : List Char) :
    escape (c :: text) = escapeChar c ++ escape text := rfl

@[simp] theorem escape_append (s t : List Char) : escape (s ++ t) = escape s ++ escape t := by
  simp [escape]

end CloudSpeech.Ssml
