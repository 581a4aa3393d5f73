import CloudSpeech.Toml.Lexical
import CloudSpeech.Text.Hexadecimal
/-!
# Quoted text in TOML

Text stands between double quotes, where a backslash begins an escape, or between single quotes,
where every character stands for itself.  Three quotes open a text of several lines, whose closing
quotes may have one or two more in front of them that belong to the text.
-/

namespace CloudSpeech.Toml

/-- The character with the code point that digits in base sixteen denote. -/
def codePoint? (digits : List Char) : Option Char :=
  (Text.hexNumber? digits).bind fun n => if n.isValidChar then some (Char.ofNat n) else none

/-- The character that a backslash and a letter stand for. -/
def shortEscape? : Char → Option Char
  | 'b' => some '\x08'
  | 't' => some '\t'
  | 'n' => some '\n'
  | 'f' => some '\x0c'
  | 'r' => some '\r'
  | '"' => some '"'
  | '\\' => some '\\'
  | _ => none

/-- Puts a character in front of what was read. -/
def prepend (c : Option Char) (read : Option (List Char × List Char)) :
    Option (List Char × List Char) :=
  match c, read with
  | some c, some (chars, rest) => some (c :: chars, rest)
  | _, _ => none

/-- The rest of a text between double quotes, and what follows the closing quote. -/
def readBasic : Reader (List Char)
  | [] => none
  | '"' :: rest => some ([], rest)
  | '\\' :: 'u' :: a :: b :: c :: d :: rest => prepend (codePoint? [a, b, c, d]) (readBasic rest)
  | '\\' :: 'U' :: a :: b :: c :: d :: e :: f :: g :: h :: rest =>
      prepend (codePoint? [a, b, c, d, e, f, g, h]) (readBasic rest)
  | '\\' :: c :: rest => prepend (shortEscape? c) (readBasic rest)
  | c :: rest => if isPlain c then prepend (some c) (readBasic rest) else none

/-- The rest of a text between single quotes, and what follows the closing quote. -/
def readLiteral : Reader (List Char)
  | [] => none
  | '\x27' :: rest => some ([], rest)
  | c :: rest => if isPlain c then prepend (some c) (readLiteral rest) else none

/-- The rest of a text between three double quotes.  A backslash at the end of a line joins it to
the next character that is neither a space nor a line break; `joining` tells that this is being
looked for. -/
def readLongBasic (joining : Bool) : Reader (List Char)
  | [] => none
  | '"' :: '"' :: '"' :: '"' :: '"' :: rest => some (['"', '"'], rest)
  | '"' :: '"' :: '"' :: '"' :: rest => some (['"'], rest)
  | '"' :: '"' :: '"' :: rest => some ([], rest)
  | '\n' :: rest =>
      if joining then readLongBasic true rest else prepend (some '\n') (readLongBasic false rest)
  | '\r' :: '\n' :: rest =>
      if joining then readLongBasic true rest else prepend (some '\n') (readLongBasic false rest)
  | '\\' :: 'u' :: a :: b :: c :: d :: rest =>
      prepend (codePoint? [a, b, c, d]) (readLongBasic false rest)
  | '\\' :: 'U' :: a :: b :: c :: d :: e :: f :: g :: h :: rest =>
      prepend (codePoint? [a, b, c, d, e, f, g, h]) (readLongBasic false rest)
  | '\\' :: c :: rest =>
      if (afterBreak? (skipSpace (c :: rest))).isSome then readLongBasic true rest
      else prepend (shortEscape? c) (readLongBasic false rest)
  | c :: rest =>
      if joining && isSpace c then readLongBasic true rest
      else if isPlain c then prepend (some c) (readLongBasic false rest)
      else none

/-- The rest of a text between three single quotes. -/
def readLongLiteral : Reader (List Char)
  | [] => none
  | '\x27' :: '\x27' :: '\x27' :: '\x27' :: '\x27' :: rest => some (['\x27', '\x27'], rest)
  | '\x27' :: '\x27' :: '\x27' :: '\x27' :: rest => some (['\x27'], rest)
  | '\x27' :: '\x27' :: '\x27' :: rest => some ([], rest)
  | '\n' :: rest => prepend (some '\n') (readLongLiteral rest)
  | '\r' :: '\n' :: rest => prepend (some '\n') (readLongLiteral rest)
  | c :: rest => if isPlain c then prepend (some c) (readLongLiteral rest) else none

/-- A text of several lines begins after the line break that follows its opening quotes. -/
def skipFirstBreak (chars : List Char) : List Char := (afterBreak? chars).getD chars

/-- A quoted text on one line. -/
def readQuoted : Reader String
  | '"' :: rest => (readBasic rest).map fun (chars, rest) => (String.ofList chars, rest)
  | '\x27' :: rest => (readLiteral rest).map fun (chars, rest) => (String.ofList chars, rest)
  | _ => none

/-- A quoted text, on one line or several. -/
def readText : Reader String
  | '"' :: '"' :: '"' :: rest =>
      (readLongBasic false (skipFirstBreak rest)).map fun (chars, rest) =>
        (String.ofList chars, rest)
  | '\x27' :: '\x27' :: '\x27' :: rest =>
      (readLongLiteral (skipFirstBreak rest)).map fun (chars, rest) => (String.ofList chars, rest)
  | chars => readQuoted chars

end CloudSpeech.Toml
