import CloudSpeech.Text.Utf8
/-!
# Words of a command line

A word is a text, or a sequence of octets that is no text.  Its first characters tell whether it
may be an option.
-/

namespace CloudSpeech.CommandLine

inductive Word where
  | text (text : String)
  /-- Octets that are not UTF-8. -/
  | raw (octets : Octets)
  deriving DecidableEq, Repr

namespace Word

def ofOctets (octets : Octets) : Word :=
  match Text.Utf8.strict? octets with
  | some content => .text content
  | none => .raw octets

def text? : Word → Option String
  | text content => some content
  | raw _ => none

def shown : Word → String
  | text content => content
  | raw octets => Text.Utf8.lenient octets

def octets : Word → Octets
  | text content => Octets.ofText content
  | raw octets => octets

def isEmpty (word : Word) : Bool := word = .text ""

inductive Shape where
  /-- Two dashes, which end the options. -/
  | terminator
  /-- Two dashes and a name, perhaps with a value after an equals sign. -/
  | long (name : Word) (value : Option Word)
  /-- One dash and letters. -/
  | short (letters : Word)
  | plain
  deriving DecidableEq, Repr

/-- What follows the first equals sign, if there is one. -/
def afterEquals : List Char → Option String
  | [] => none
  | c :: rest => if c = '=' then some (String.ofList rest) else afterEquals rest

def octetsAfterEquals : Octets → Option Word
  | [] => none
  | b :: rest => if b = 0x3d then some (ofOctets rest) else octetsAfterEquals rest

def shape : Word → Shape
  | text content =>
      match content.toList with
      | ['-', '-'] => .terminator
      | '-' :: '-' :: rest =>
          .long (.text (String.ofList (rest.takeWhile (· ≠ '='))))
            ((afterEquals rest).map .text)
      | '-' :: c :: rest => .short (.text (String.ofList (c :: rest)))
      | _ => .plain
  | raw octets =>
      match octets with
      | 0x2d :: 0x2d :: rest =>
          .long (ofOctets (rest.takeWhile (· ≠ 0x3d))) (octetsAfterEquals rest)
      | 0x2d :: b :: rest => .short (ofOctets (b :: rest))
      | _ => .plain

/-- The first letter of a cluster, if it is a character. -/
def firstLetter? : Word → Option Char
  | text content => content.toList.head?
  | raw octets => ((Text.Utf8.scan octets).head?).join

end Word

end CloudSpeech.CommandLine
