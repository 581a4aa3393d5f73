import CloudSpeech.Voice
import CloudSpeech.Ssml.Escape
/-!
# Speech documents

The speech service takes a document of two nested elements around the text to speak: the outer one
fixes the document's language, the inner one names the voice.  A document can be cut back into its
tags and the texts between them.
-/

namespace CloudSpeech.Ssml

def openSpeak : List Char := "<speak version='1.0' xml:lang='en-us'>".toList

def openVoice (voice : Voice) : List Char :=
  "<voice xml:lang='".toList ++ voice.locale.toList ++ "' xml:gender='".toList
    ++ voice.gender.name.toList ++ "' name='".toList ++ voice.fullName.toList ++ "'>".toList

def closeVoice : List Char := "</voice>".toList

def closeSpeak : List Char := "</speak>".toList

/-- The text of a message inside a document: escaped, or as it is, so that it may hold tags. -/
def body (message : String) (escapeText : Bool) : List Char :=
  if escapeText then escape message.toList else message.toList

/-- The document that asks for a message in a voice. -/
def render (voice : Voice) (message : String) (escapeText : Bool) : String :=
  String.ofList
    (openSpeak ++ openVoice voice ++ body message escapeText ++ closeVoice ++ closeSpeak)

/-- A piece of a document: a tag with its brackets, or the text between two tags. -/
inductive Piece where
  | tag (chars : List Char)
  | text (chars : List Char)
  deriving DecidableEq, Repr

/-- Puts a text in front of the pieces; an empty text is no piece. -/
def consText (chars : List Char) (pieces : List Piece) : List Piece :=
  if chars = [] then pieces else .text chars :: pieces

/-- Cuts a document into pieces.  `inside` tells whether a tag is open, and `held` is what has
been read of the current piece, last character first.  A tag runs to the next closing bracket. -/
def cut : (inside : Bool) → (held : List Char) → List Char → List Piece
  | false, held, [] => consText held.reverse []
  | true, held, [] => consText held.reverse []
  | false, held, c :: rest =>
      if c = '<' then consText held.reverse (cut true ['<'] rest) else cut false (c :: held) rest
  | true, held, c :: rest =>
      if c = '>' then .tag (c :: held).reverse :: cut false [] rest else cut true (c :: held) rest

/-- The tags and texts of a document, in order. -/
def pieces (document : String) : List Piece := cut false [] document.toList

end CloudSpeech.Ssml
