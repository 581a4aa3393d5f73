/-!
# The characters of TOML

The kinds of characters, and what separates the parts of a TOML text: spaces, line breaks and
comments.  A reader takes characters and gives, if it succeeds, what it read and the characters
that follow.
-/

namespace CloudSpeech.Toml

/-- A reader of the front of a text. -/
abbrev Reader (α : Type) := List Char → Option (α × List Char)

def isSpace (c : Char) : Bool := c = ' ' || c = '\t'

/-- Whether a character may stand in a comment or between quotes as it is: all but control
characters, of which the tab is allowed. -/
def isPlain (c : Char) : Bool := c = '\t' || (32 ≤ c.toNat && c.toNat ≠ 127)

/-- What follows the spaces at the front. -/
def skipSpace (chars : List Char) : List Char := chars.dropWhile isSpace

/-- What follows a line break, if there is one at the front. -/
def afterBreak? : List Char → Option (List Char)
  | '\n' :: rest => some rest
  | '\r' :: '\n' :: rest => some rest
  | _ => none

/-- What follows a comment, or everything if there is none at the front. -/
def skipComment : List Char → List Char
  | '#' :: rest => rest.dropWhile isPlain
  | chars => chars

/-- What follows the end of a line: spaces, perhaps a comment, and a line break or the end of the
text. -/
def afterLine? (chars : List Char) : Option (List Char) :=
  match skipComment (skipSpace chars) with
  | [] => some []
  | rest => afterBreak? rest

/-- What follows the gap between two items of an array, which may hold spaces, line breaks and
comments.  The gap may begin within a comment. -/
def skipGapFrom (inComment : Bool) : List Char → List Char
  | [] => []
  | '\n' :: rest => skipGapFrom false rest
  | '\r' :: '\n' :: rest => skipGapFrom false rest
  | c :: rest =>
      if inComment then
        if isPlain c then skipGapFrom true rest else c :: rest
      else if isSpace c then skipGapFrom false rest
      else if c = '#' then skipGapFrom true rest
      else c :: rest

/-- What follows the gap at the front. -/
def skipGap (chars : List Char) : List Char := skipGapFrom false chars

end CloudSpeech.Toml
