import CloudSpeech.Json.Literal
/-!
# The tokens of a JSON text

A text is cut into brackets, separators, words, numbers and strings.  The first place where no
token can be cut becomes a last token that carries the fault.
-/

namespace CloudSpeech.Json

inductive Token where
  | openArray
  | closeArray
  | openObject
  | closeObject
  | comma
  | colon
  | null
  | bool (value : Bool)
  | number (text : NumberText)
  /-- A string with its text, or the flaw that reading finds in it. -/
  | string (text : Except Flaw String)
  /-- A string that does not end. -/
  | brokenString (fault : Fault)
  /-- A word or number that goes wrong, or a character that begins no token. -/
  | broken (fault : Fault)

def isSpace (c : Char) : Bool := c = ' ' || c = '\n' || c = '\t' || c = '\r'

/-- What follows a word, if the word is there; else the flaw. -/
def afterWord : (word : List Char) → List Char → Except Flaw (List Char)
  | [], rest => .ok rest
  | _ :: _, [] => .error .truncated
  | w :: word, c :: rest => if w = c then afterWord word rest else .error .malformed

/-- The token at the front of a text that does not begin with a space, and what follows it.
Nothing follows a fault. -/
def scanToken : List Char → Token × List Char
  | [] => (.broken (.same .truncated), [])
  | '[' :: rest => (.openArray, rest)
  | ']' :: rest => (.closeArray, rest)
  | '\x7b' :: rest => (.openObject, rest)
  | '\x7d' :: rest => (.closeObject, rest)
  | ',' :: rest => (.comma, rest)
  | ':' :: rest => (.colon, rest)
  | 'n' :: rest => word .null ['u', 'l', 'l'] rest
  | 't' :: rest => word (.bool true) ['r', 'u', 'e'] rest
  | 'f' :: rest => word (.bool false) ['a', 'l', 's', 'e'] rest
  | '"' :: rest =>
      match scanString rest with
      | (pieces, .closed rest) => (.string ((joinPieces none pieces).map String.ofList), rest)
      | (pieces, .open flaw) =>
          match joinPieces (some flaw) pieces with
          | .ok _ => (.brokenString (.same flaw), [])
          | .error reading => (.brokenString ⟨reading, flaw⟩, [])
  | c :: rest =>
      if c = '-' || c.isDigit then
        match scanNumber (c :: rest) with
        | .ok (text, after) => (.number text, after)
        | .error fault => (.broken fault, [])
      else (.broken (.same .malformed), [])
where
  /-- A word whose first letter has been read. -/
  word (token : Token) (letters rest : List Char) : Token × List Char :=
    match afterWord letters rest with
    | .ok rest => (token, rest)
    | .error flaw => (.broken (.same flaw), [])

/-- The tokens of a text.  A token takes at least one character; the test says so to the reader
and to the termination checker. -/
def tokens (chars : List Char) : List Token :=
  match chars.dropWhile isSpace with
  | [] => []
  | c :: rest =>
      let (token, after) := scanToken (c :: rest)
      if _ : after.length < chars.length then token :: tokens after else [token]
termination_by chars.length

end CloudSpeech.Json
